import RenderKit.Command.Buffer
import RenderKit.Scene.Material

set_option autoImplicit false

/-! # Render contexts

A context fixes how an application renders: the interface, some settings, and how shaders are
compiled. There is at most one of them at a time. -/

namespace RenderKit

structure ContextConfig where
  api : Api
  vsync : Bool
  /-- The samples of a pixel; none and one mean the same. -/
  samples : UInt32
  validation : Validation
  options : CompileOptions
deriving DecidableEq, Repr

inductive ContextError where
  | unsupported (requested : Api)
  | otherApi (device requested : Api)
  | samples (count : UInt32)
  | alreadyActive
deriving DecidableEq, Repr

instance : Cause ContextError where
  source _ := "cbox::context"
  kind _ := .invalidState
  message
    | .unsupported requested =>
        "Only OpenGL is currently supported (requested " ++ nameOf requested ++ ")"
    | .otherApi device requested =>
        "Device implements " ++ nameOf device ++ " but " ++ nameOf requested ++ " was requested"
    | .samples count => "Unsupported MSAA sample count " ++ toString count.toNat
    | .alreadyActive => "A render context is already active"

namespace ContextConfig

def new (api : Api) : ContextConfig :=
  { api := api, vsync := true, samples := 0, validation := .silent, options := {} }

/-- The numbers of samples that can be asked for. -/
def sampleCounts : List UInt32 := [0, 1, 2, 4, 8, 16]

/-- The first thing that keeps a context from being created. -/
def fault? (c : ContextConfig) (device : Api) (active : Bool) : Option ContextError :=
  if c.api ≠ .openGL then some (.unsupported c.api)
  else if device ≠ c.api then some (.otherApi device c.api)
  else if !sampleCounts.contains c.samples then some (.samples c.samples)
  else if active then some .alreadyActive
  else none

end ContextConfig

/-- The settings of the one context; it is created and released through the world. -/
structure RenderContext where
  config : ContextConfig
deriving DecidableEq, Repr

namespace RenderContext

/-- The text of compile options for a developer. -/
def optionsText (o : CompileOptions) : String :=
  recordText "CompileOptions"
    [("optimize", boolText o.optimize), ("debug_info", boolText o.debugInfo),
     ("warnings_as_errors", boolText o.warningsAsErrors), ("entry_point", quoted o.entryPoint),
     ("defines", listText (o.defines.map fun d => "(" ++ quoted d.1 ++ ", " ++ quoted d.2 ++ ")"))]

def debugText (c : RenderContext) : String :=
  recordText "RenderContext"
    [("config", recordText "ContextConfig"
      [("api", nameOf c.config.api), ("vsync", boolText c.config.vsync),
       ("msaa_samples", toString c.config.samples.toNat),
       ("validation", nameOf c.config.validation),
       ("compile_options", optionsText c.config.options)])]

variable {σ : Type} [GraphicsDevice σ]

/-- Create the context, if there is none yet. -/
def create (config : ContextConfig) : Render σ RenderContext := do
  let w ← get
  match config.fault? (GraphicsDevice.api w.device) w.contextActive with
  | some e => reject e
  | none => do
      set { w with contextActive := true }
      note .info "cbox::context"
        ("Render context created (" ++ nameOf config.api ++ ", vsync=" ++ boolText config.vsync
          ++ ", msaa=" ++ toString config.samples.toNat ++ ", validation="
          ++ nameOf config.validation ++ ")")
      return ⟨config⟩

/-- Release the context, so that another one can be created. -/
def discard (_ : RenderContext) : Render σ Unit := do
  modify fun w => { w with contextActive := false }
  note .info "cbox::context" "Render context released"

/-- A command buffer that is as strict as the context. -/
def commandBuffer (c : RenderContext) : CommandBuffer := .new c.config.validation

end RenderContext

end RenderKit
