import RenderKit.Journal
import RenderKit.OpenGL.Version
import RenderKit.Shader.Stage
import RenderKit.Text.Hex

set_option autoImplicit false

/-! # What goes wrong with OpenGL -/

namespace RenderKit

def glSource : String := "cbox::gl"

/-- The oldest version whose shaders can say their bindings. -/
def leastGlVersion : GlVersion := ⟨4, 2, false⟩

inductive GlCause where
  | embedded
  | tooOld (version : GlVersion)
  /-- The driver created no object: what was wanted, in words, and its type. -/
  | notCreated (what title : String)
  /-- A number of bytes that the interface has no room for. -/
  | tooManyBytes (what : String) (count : UInt64)
  | tooLarge (side limit : UInt32)
  | tooManyColors (count : Nat) (limit : UInt32)
  | colorAsDepth
  | incomplete (status : UInt32)
  | notCompiled (stage : Stage) (info : String)
  | notLinked (info : String)
deriving DecidableEq, Repr

instance : Cause GlCause where
  source _ := glSource
  kind
    | .tooLarge _ _ => .invalidState
    | .notCompiled _ _ | .notLinked _ => .invalidFormat
    | _ => .backendError
  message
    | .embedded => "OpenGL ES contexts are not supported"
    | .tooOld version =>
        "OpenGL " ++ leastGlVersion.text ++ " or newer is required (context is " ++ version.text
          ++ ")"
    | .notCreated what title =>
        "Failed to create " ++ what ++ ": Unable to create " ++ title ++ " object"
    | .tooManyBytes what count =>
        what ++ " of " ++ toString count.toNat ++ " bytes exceeds the GL limit"
    | .tooLarge side limit =>
        "Texture dimension " ++ toString side.toNat ++ " exceeds the device maximum "
          ++ toString limit.toNat
    | .tooManyColors count limit =>
        toString count ++ " color attachments requested, device supports "
          ++ toString limit.toNat
    | .colorAsDepth => "A color attachment cannot be used as the depth attachment"
    | .incomplete status =>
        "Framebuffer is incomplete (status 0x" ++ Hex.capitals 4 status.toNat ++ ")"
    | .notCompiled stage info => "Failed to compile " ++ stage.name ++ " shader: " ++ info
    | .notLinked info => "Failed to link program: " ++ info

end RenderKit
