import RenderKit.Context
import RenderKit.Datum
import RenderKit.Files

set_option autoImplicit false

/-! # Written settings

States begin with a preset and override single settings of it. Samplers, passes and contexts are
built by instructions that follow one after the other. -/

namespace RenderKit.Datum

def asStage : Datum → Reading Stage := asOneOf Stage.all Stage.title

def asErrorKind : Datum → Reading ErrorKind := asOneOf ErrorKind.all ErrorKind.name

def asSeverity : Datum → Reading Severity := asOneOf Severity.all Severity.name

/-- Files with text or bytes in them, and directories. -/
def asFiles (d : Datum) : Reading Files := do
  (← d.getD "files" asList []).foldlM
    (fun files x => do
      let path ← x.get "path" asText
      match ← x.opt "text" asText, ← x.opt "hex" asBytes with
      | some content, _ => return files.insert path (.file content.toUTF8.toList)
      | none, some content => return files.insert path (.file content)
      | none, none => return files.insert path .directory)
    Files.empty

/-- The options, each of which overrides its default. -/
def asOptions (d : Datum) : Reading CompileOptions := do
  let pair (x : Datum) : Reading (String × String) := do
    match ← x.asList with
    | [a, b] => return (← a.asText, ← b.asText)
    | _ => unreadable "pair"
  let standard : CompileOptions := {}
  return {
    optimize := ← d.getD "optimize" asBool standard.optimize
    debugInfo := ← d.getD "debug_info" asBool standard.debugInfo
    warningsAsErrors := ← d.getD "warnings_as_errors" asBool standard.warningsAsErrors
    entryPoint := ← d.getD "entry_point" asText standard.entryPoint
    defines := ← d.getD "defines" (each pair) standard.defines }

/-! ## States -/

/-- A value under the name of its type. -/
def asUniform (d : Datum) : Reading UniformValue := do
  match ← d.asFields with
  | [("int", x)] => return .int (← x.asSigned)
  | [("float", x)] => return .float (← x.asFloat)
  | [(key, x)] =>
      match key, ← x.asFloats with
      | "vec2", [a, b] => return .vec2 ⟨a, b⟩
      | "vec3", [a, b, c] => return .vec3 ⟨a, b, c⟩
      | "vec4", [a, b, c, d] => return .vec4 ⟨a, b, c, d⟩
      | "mat3", [a, b, c, d, e, f, g, h, i] =>
          return .mat3 ⟨⟨a, b, c⟩, ⟨d, e, f⟩, ⟨g, h, i⟩⟩
      | "mat4", [a, b, c, d, e, f, g, h, i, j, k, l, m, n, o, p] =>
          return .mat4 ⟨⟨a, b, c, d⟩, ⟨e, f, g, h⟩, ⟨i, j, k, l⟩, ⟨m, n, o, p⟩⟩
      | _, _ => unreadable key
  | _ => unreadable "uniform"

def asAttribute (d : Datum) : Reading VertexAttribute := do
  match ← d.asList with
  | [location, format, offset, normalized] =>
      return ⟨← location.asWord, ← format.asNamed, ← offset.asWord, ← normalized.asBool⟩
  | _ => unreadable "attribute"

def asRasterizer (d : Datum) : Reading Rasterizer := do
  let r ← match ← d.getD "preset" asText "default" with
    | "no_cull" => pure Rasterizer.noCull
    | "wireframe" => pure Rasterizer.wireframe
    | _ => pure Rasterizer.standard
  return {
    cull := ← d.getD "cull" asNamed r.cull
    polygon := ← d.getD "polygon" asNamed r.polygon
    front := ← d.getD "front" asNamed r.front
    bias := ← d.getD "bias" asFloat r.bias
    slope := ← d.getD "slope" asFloat r.slope
    depthClamp := ← d.getD "clamp" asBool r.depthClamp
    scissorTest := ← d.getD "scissor" asBool r.scissorTest }

def asStencilFace (f : StencilFace) (d : Datum) : Reading StencilFace := do
  return {
    fail := ← d.getD "fail" asNamed f.fail
    depthFail := ← d.getD "depth_fail" asNamed f.depthFail
    pass := ← d.getD "pass" asNamed f.pass
    compare := ← d.getD "compare" asNamed f.compare
    compareMask := ← d.getD "compare_mask" asWord f.compareMask
    writeMask := ← d.getD "write_mask" asWord f.writeMask
    reference := ← d.getD "reference" asWord f.reference }

def asDepthStencil (d : Datum) : Reading DepthStencil := do
  let s ← match ← d.getD "preset" asText "default" with
    | "no_depth" => pure DepthStencil.noDepth
    | "read_only" => pure DepthStencil.readOnly
    | _ => pure DepthStencil.standard
  return {
    depthTest := ← d.getD "test" asBool s.depthTest
    depthWrite := ← d.getD "write" asBool s.depthWrite
    depthCompare := ← d.getD "compare" asNamed s.depthCompare
    stencilTest := ← d.getD "stencil" asBool s.stencilTest
    front := ← d.getD "front" (asStencilFace s.front) s.front
    back := ← d.getD "back" (asStencilFace s.back) s.back }

/-! ## Blending -/

/-- The settings of one attachment, each of which overrides its old value. -/
def asBlendAttachment (old : BlendAttachment) (d : Datum) : Reading BlendAttachment := do
  return {
    enabled := ← d.getD "enabled" asBool old.enabled
    srcColor := ← d.getD "src_color" asNamed old.srcColor
    dstColor := ← d.getD "dst_color" asNamed old.dstColor
    colorOp := ← d.getD "color_op" asNamed old.colorOp
    srcAlpha := ← d.getD "src_alpha" asNamed old.srcAlpha
    dstAlpha := ← d.getD "dst_alpha" asNamed old.dstAlpha
    alphaOp := ← d.getD "alpha_op" asNamed old.alphaOp
    mask := ← d.getD "mask" (fun x => WriteMask.ofBits <$> x.asNat) old.mask }

def asBlend (d : Datum) : Reading Blend := do
  let b ← match ← d.getD "preset" asText "default" with
    | "alpha_blend" => pure Blend.alphaBlend
    | "additive" => pure Blend.additive
    | _ => pure Blend.disabled
  let constants ← d.getD "constants" asVec4 b.constants
  let changes ← d.getD "attachments" asFields []
  changes.foldlM
    (fun (b : Blend) change => do
      match change.1.toNat? with
      | none => unreadable change.1
      | some index => do
          let new ← asBlendAttachment (b.attachments.getD index .standard) change.2
          return b.modify index fun _ => new)
    { b with constants := constants }

/-! ## Descriptions -/

def asTextureDesc (d : Datum) : Reading TextureDesc := do
  return {
    width := ← d.get "w" asWord
    height := ← d.get "h" asWord
    format := ← d.get "format" asNamed
    srgb := ← d.getD "srgb" asBool false
    mipmaps := ← d.getD "mipmaps" asBool false }

def samplerSetting (d : SamplerDesc) (name : String) (arguments : List Datum) :
    Reading SamplerDesc := do
  match name, arguments with
  | "filter", [min, mag] => return { d with minFilter := ← min.asNamed, magFilter := ← mag.asNamed }
  | "mipmap", [m] => return { d with mipmapMode := ← m.asNamed }
  | "wrap", [w] =>
      let mode ← w.asNamed
      return { d with wrapU := mode, wrapV := mode, wrapW := mode }
  | "wrap_u", [w] => return { d with wrapU := ← w.asNamed }
  | "wrap_v", [w] => return { d with wrapV := ← w.asNamed }
  | "wrap_w", [w] => return { d with wrapW := ← w.asNamed }
  | "anisotropy", [x] => return { d with anisotropy := ← x.asFloat }
  | "border_color", [x] => return { d with borderColor := ← x.asVec4 }
  | _, _ => unreadable name

def passSetting (p : PassPlan) (name : String) (arguments : List Datum) : Reading PassPlan := do
  let d := p.depthStencil
  match name, arguments with
  | "clear_color", [i, x] =>
      let color ← x.asVec4
      return p.color (← i.asNat) fun c => { c with clearColor := color }
  | "color_load", [i, x] =>
      let op ← x.asNamed
      return p.color (← i.asNat) fun c => { c with load := op }
  | "color_store", [i, x] =>
      let op ← x.asNamed
      return p.color (← i.asNat) fun c => { c with store := op }
  | "clear_depth", [x] => return { p with depthStencil := { d with clearDepth := ← x.asFloat } }
  | "clear_stencil", [x] => return { p with depthStencil := { d with clearStencil := ← x.asWord } }
  | "depth_load", [x] => return { p with depthStencil := { d with depthLoad := ← x.asNamed } }
  | "depth_store", [x] => return { p with depthStencil := { d with depthStore := ← x.asNamed } }
  | "stencil_load", [x] => return { p with depthStencil := { d with stencilLoad := ← x.asNamed } }
  | "stencil_store", [x] => return { p with depthStencil := { d with stencilStore := ← x.asNamed } }
  | "count", [n] => return { p with count := ← n.asNat }
  | _, _ => unreadable name

def contextSetting (c : ContextConfig) (name : String) (arguments : List Datum) :
    Reading ContextConfig := do
  match name, arguments with
  | "vsync", [b] => return { c with vsync := ← b.asBool }
  | "msaa", [n] => return { c with samples := ← n.asWord }
  | "validation", [x] => return { c with validation := ← x.asNamed }
  | "options", [x] => return { c with options := ← x.asOptions }
  | _, _ => unreadable name

end RenderKit.Datum
