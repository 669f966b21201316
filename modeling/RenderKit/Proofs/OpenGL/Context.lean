import Mathlib.Logic.Function.Basic
import RenderKit.OpenGL.Device
import RenderKit.Proofs.Ledger.Calls

set_option autoImplicit false

/-! # The context of a driver

Commands are about what is bound, and a clear goes where the masks let it. The context says what
that is. Binding commands set a binding, an object that is deleted is not bound any more, and a
driver conforms if its answers agree with its context. Vertex arrays and framebuffers have a state
of their own: the buffer that elements are read from belongs to the vertex array that is bound when
it is bound, and the slots that are drawn into belong to the framebuffer. A context also keeps what
was bound at each draw, where each clear went, and which program each value of a uniform went to. -/

namespace RenderKit

/-- What is bound; zero is nothing, and for framebuffers the window. -/
structure Bindings where
  program : GlName
  vertexArray : GlName
  framebuffer : GlName
  /-- The texture of each unit. -/
  texture : UInt32 → GlName

/-- A rectangle as the interface takes it. -/
structure ScissorBox where
  x : Int32
  y : Int32
  width : Int32
  height : Int32
deriving DecidableEq

/-- What a clear may write to. -/
structure Masks where
  depth : Bool
  /-- The bits of front faces, which are those a clear minds. -/
  stencil : UInt32
  color : UInt32 → WriteMask
  /-- Whether everything outside of the box is left alone. -/
  scissor : Bool
  /-- The box that was set last. Until one is set it is the window of the beginning. -/
  box : Option ScissorBox

/-- The slots that colors go to, in the order of the outputs. An output without a slot is lost. -/
abbrev DrawBuffers := List (Option AttachmentSlot)

/-- What a framebuffer draws into as long as nobody says anything else. -/
def DrawBuffers.initial : DrawBuffers := [some (.color 0)]

/-- A clear of some parts of a framebuffer. -/
structure Clearing where
  /-- What colors are cleared to, if they are. -/
  color : Option Vec4
  depth : Bool
  stencil : Bool
  masks : Masks
  framebuffer : GlName
  drawBuffers : DrawBuffers

/-- A value that was written to a location of a program. -/
structure UniformWrite where
  program : GlName
  location : Int32
  value : UniformValue
deriving DecidableEq

/-- Everything can be written to. -/
def Masks.initial : Masks := ⟨true, 0xffffffff, fun _ => .full, false, none⟩

/-- The masks with another box. Sides are not negative. -/
def Masks.withBox (m : Masks) (b : ScissorBox) : Masks :=
  { m with box := if b.width < 0 ∨ b.height < 0 then m.box else some b }

/-- The part of a context that commands say everything about. -/
structure Trace where
  bindings : Bindings
  masks : Masks
  /-- The buffer that each vertex array has elements from. -/
  elements : GlName → GlName
  /-- Where each framebuffer draws into. -/
  drawBuffers : GlName → DrawBuffers
  /-- What was bound at each draw so far. -/
  draws : List Bindings
  /-- The buffer that elements were read from at each draw that needs some. -/
  indexed : List GlName
  clears : List Clearing
  writes : List UniformWrite

structure GlContext extends trace : Trace where
  activeUnit : UInt32
  clearColor : Vec4
  /-- The objects there are. -/
  objects : List Native

namespace Bindings

def none : Bindings := ⟨0, 0, 0, fun _ => 0⟩

/-- A name that is no name any more if its object is among some. -/
def clearName (kind : ObjectKind) (gone : List Native) (name : GlName) : GlName :=
  if ⟨kind, name⟩ ∈ gone then 0 else name

/-- What is still bound when some objects are gone. -/
def without (b : Bindings) (gone : List Native) : Bindings where
  program := clearName .program gone b.program
  vertexArray := clearName .vertexArray gone b.vertexArray
  framebuffer := clearName .framebuffer gone b.framebuffer
  texture unit := clearName .texture gone (b.texture unit)

@[simp] theorem without_nil (b : Bindings) : b.without [] = b := rfl

@[simp] theorem clearName_zero (kind : ObjectKind) (gone : List Native) :
    clearName kind gone 0 = 0 :=
  ite_self 0

theorem clearName_handle {kind : ObjectKind} {h : Handle kind} {gone : List Native}
    (hkept : h.native ∉ gone) : clearName kind gone h.raw = h.raw :=
  if_neg hkept

theorem clearName_append (kind : ObjectKind) (gone more : List Native) (name : GlName) :
    clearName kind more (clearName kind gone name) = clearName kind (gone ++ more) name := by
  by_cases h : (⟨kind, name⟩ : Native) ∈ gone
  · simp [clearName, h]
  · simp [clearName, h]

theorem without_append (b : Bindings) (gone more : List Native) :
    (b.without gone).without more = b.without (gone ++ more) := by
  simp only [without, clearName_append]

/-- Everything that is bound is among some objects. -/
structure Within (b : Bindings) (objects : List Native) : Prop where
  program : b.program ≠ 0 → ⟨.program, b.program⟩ ∈ objects
  vertexArray : b.vertexArray ≠ 0 → ⟨.vertexArray, b.vertexArray⟩ ∈ objects
  framebuffer : b.framebuffer ≠ 0 → ⟨.framebuffer, b.framebuffer⟩ ∈ objects
  texture : ∀ unit, b.texture unit ≠ 0 → ⟨.texture, b.texture unit⟩ ∈ objects

/-- What was not bound can go without notice. -/
theorem Within.without_eq {b : Bindings} {objects gone : List Native} (h : b.Within objects)
    (hgone : ∀ x ∈ gone, x ∉ objects) : b.without gone = b := by
  have hname : ∀ kind name, (name ≠ 0 → (⟨kind, name⟩ : Native) ∈ objects) →
      clearName kind gone name = name := by
    intro kind name hin
    unfold clearName
    split
    · rename_i hmem
      by_contra hne
      exact hgone _ hmem (hin (Ne.symm hne))
    · rfl
  obtain ⟨program, vertexArray, framebuffer, texture⟩ := b
  simp only [without, hname _ _ h.program, hname _ _ h.vertexArray, hname _ _ h.framebuffer,
    hname _ _ (h.texture _)]

/-- What is still bound when some objects are gone is among the others. -/
theorem Within.without {b : Bindings} {objects objects' gone : List Native} (h : b.Within objects)
    (hkept : ∀ x ∈ objects, x ∉ gone → x ∈ objects') : (b.without gone).Within objects' := by
  have hname : ∀ kind name, (name ≠ 0 → (⟨kind, name⟩ : Native) ∈ objects) →
      clearName kind gone name ≠ 0 → (⟨kind, clearName kind gone name⟩ : Native) ∈ objects' := by
    intro kind name hin hne
    unfold clearName at hne ⊢
    split at hne
    · exact absurd rfl hne
    · rename_i hmem
      rw [if_neg hmem]
      exact hkept _ (hin hne) hmem
  exact ⟨hname _ _ h.program, hname _ _ h.vertexArray, hname _ _ h.framebuffer,
    fun unit => hname _ _ (h.texture unit)⟩

theorem Within.mono {b : Bindings} {objects objects' : List Native} (h : b.Within objects)
    (hsub : ∀ x ∈ objects, x ∈ objects') : b.Within objects' :=
  ⟨fun hne => hsub _ (h.program hne), fun hne => hsub _ (h.vertexArray hne),
    fun hne => hsub _ (h.framebuffer hne), fun unit hne => hsub _ (h.texture unit hne)⟩

end Bindings

namespace Trace

/-- Nothing is bound and everything can be written to. -/
def start : Trace where
  bindings := .none
  masks := .initial
  elements _ := 0
  drawBuffers _ := .initial
  draws := []
  indexed := []
  clears := []
  writes := []

/-- The elements of vertex arrays when some objects are gone. A buffer that goes is taken from the
    vertex array that is bound, and from no other. -/
def elementsWithout (t : Trace) (gone : List Native) (array : GlName) : GlName :=
  if ⟨.vertexArray, array⟩ ∈ gone then 0
  else if array = t.bindings.vertexArray then Bindings.clearName .buffer gone (t.elements array)
  else t.elements array

def drawBuffersWithout (t : Trace) (gone : List Native) (framebuffer : GlName) : DrawBuffers :=
  if ⟨.framebuffer, framebuffer⟩ ∈ gone then .initial else t.drawBuffers framebuffer

@[simp] theorem elementsWithout_nil (t : Trace) : t.elementsWithout [] = t.elements := by
  funext array
  simp [elementsWithout, Bindings.clearName]

@[simp] theorem drawBuffersWithout_nil (t : Trace) : t.drawBuffersWithout [] = t.drawBuffers := rfl

/-- Only vertex arrays and buffers matter to elements. -/
theorem elementsWithout_of_kind {t : Trace} {x : Native} (harray : x.kind ≠ .vertexArray)
    (hbuffer : x.kind ≠ .buffer) : t.elementsWithout [x] = t.elements := by
  have hne : ∀ kind name, x.kind ≠ kind → (⟨kind, name⟩ : Native) ∉ [x] := by
    rintro kind name hkind hmem
    exact hkind (List.mem_singleton.mp hmem ▸ rfl)
  funext array
  rw [elementsWithout, if_neg (hne _ _ harray), Bindings.clearName, if_neg (hne _ _ hbuffer),
    ite_self]

end Trace

/-! ## Commands -/

namespace GlContext

/-- What a command changes about a context. -/
def run (c : GlCommand) (g : GlContext) : GlContext :=
  match c with
  | .delete kind name =>
      { g with
        bindings := g.bindings.without [⟨kind, name⟩]
        elements := g.elementsWithout [⟨kind, name⟩]
        drawBuffers := g.drawBuffersWithout [⟨kind, name⟩]
        objects := g.objects.filter (· ≠ ⟨kind, name⟩) }
  | .useProgram program => { g with bindings := { g.bindings with program := program } }
  | .bindVertexArray array => { g with bindings := { g.bindings with vertexArray := array } }
  | .bindBuffer .elementArray buffer =>
      { g with elements := Function.update g.elements g.bindings.vertexArray buffer }
  | .bindFramebuffer framebuffer =>
      { g with bindings := { g.bindings with framebuffer := framebuffer } }
  | .drawBuffers slots =>
      { g with drawBuffers := Function.update g.drawBuffers g.bindings.framebuffer slots }
  | .activeTexture unit => { g with activeUnit := unit }
  | .bindTexture texture =>
      { g with
        bindings :=
          { g.bindings with texture := Function.update g.bindings.texture g.activeUnit texture } }
  | .switch .scissorTest on => { g with masks := { g.masks with scissor := on } }
  | .scissor x y width height => { g with masks := g.masks.withBox ⟨x, y, width, height⟩ }
  | .depthMask on => { g with masks := { g.masks with depth := on } }
  | .stencilMask .back _ => g
  | .stencilMask _ mask => { g with masks := { g.masks with stencil := mask } }
  | .colorMask drawBuffer mask =>
      { g with masks := { g.masks with color := Function.update g.masks.color drawBuffer mask } }
  | .uniform location value =>
      { g with writes := g.writes ++ [⟨g.bindings.program, location, value⟩] }
  | .drawArrays .. => { g with draws := g.draws ++ [g.bindings] }
  | .drawElements .. =>
      { g with
        draws := g.draws ++ [g.bindings]
        indexed := g.indexed ++ [g.elements g.bindings.vertexArray] }
  | .clearColor color => { g with clearColor := color }
  | .clear color depth stencil =>
      { g with
        clears := g.clears ++
          [{ color := if color then some g.clearColor else none
             depth := depth
             stencil := stencil
             masks := g.masks
             framebuffer := g.bindings.framebuffer
             drawBuffers := g.drawBuffers g.bindings.framebuffer }] }
  | _ => g

def runAll (cs : List GlCommand) (g : GlContext) : GlContext := cs.foldl (fun g c => g.run c) g

@[simp] theorem runAll_nil (g : GlContext) : runAll [] g = g := rfl

@[simp] theorem runAll_cons (c : GlCommand) (cs : List GlCommand) (g : GlContext) :
    runAll (c :: cs) g = runAll cs (g.run c) := rfl

@[simp] theorem runAll_append (cs ds : List GlCommand) (g : GlContext) :
    runAll (cs ++ ds) g = runAll ds (runAll cs g) := List.foldl_append

/-- Commands that have nothing to do with the context. -/
theorem runAll_eq_self {cs : List GlCommand} (h : ∀ c ∈ cs, ∀ g : GlContext, g.run c = g)
    (g : GlContext) : runAll cs g = g := by
  induction cs generalizing g with
  | nil => rfl
  | cons c rest ih =>
      rw [runAll_cons, h c List.mem_cons_self, ih fun d hd => h d (List.mem_cons_of_mem _ hd)]

/-- The context after a question. -/
def asked (q : GlQuery) (reply : q.Reply) (g : GlContext) : GlContext :=
  match q with
  | .create object =>
      let name : GlName := reply
      if name = 0 then g else { g with objects := ⟨object.kind, name⟩ :: g.objects }
  | _ => g

/-- Whether an answer agrees with a context. A new object is none that is there already. -/
def Agrees (q : GlQuery) (reply : q.Reply) (g : GlContext) : Prop :=
  match q with
  | .create object => ∀ name : GlName, name = reply → name ≠ 0 → ⟨object.kind, name⟩ ∉ g.objects
  | .boundTexture => (reply : GlName) = g.bindings.texture g.activeUnit
  | .boundFramebuffer => (reply : GlName) = g.bindings.framebuffer
  | .boundVertexArray => (reply : GlName) = g.bindings.vertexArray
  | _ => True

/-- Whatever is bound is there, and framebuffers that are not there are as new ones will be. -/
structure Regular (g : GlContext) : Prop where
  within : g.bindings.Within g.objects
  drawBuffers : ∀ name, (⟨.framebuffer, name⟩ : Native) ∉ g.objects →
    g.drawBuffers name = .initial

end GlContext

/-- A driver that keeps a context and answers from it. -/
class Conforming (δ : Type) [GlDriver δ] where
  context : δ → GlContext
  context_run (c : GlCommand) (d : δ) : context (GlDriver.run c d) = (context d).run c
  context_ask (q : GlQuery) (d : δ) :
    context (GlDriver.ask q d).2 = (context d).asked q (GlDriver.ask q d).1
  agrees (q : GlQuery) (d : δ) : (context d).Agrees q (GlDriver.ask q d).1

end RenderKit
