import RenderKit.Files
import RenderKit.Shader.Sections

set_option autoImplicit false

/-! # Shader source in files

A file with sections lends its own name, without the extension, to every section that has none. -/

namespace RenderKit

/-- The part of the library that entries about shaders name. -/
def shaderSource : String := "cbox::shader"

section Tasks

variable {S : Type} [HasJournal S]

/-- The source text in a file. -/
def readShaderSource (files : Files) (path : String) : TaskOn S String :=
  match files.readText path with
  | .ok text => return text
  | .error fault => do
      let e := Error.ofRead fault path
      note .error shaderSource e.text
      raise e

/-- The sections of a file. -/
def Section.parseFile (files : Files) (path : String) : TaskOn S (List Section) := do
  let text ← readShaderSource files path
  Section.parse text (Files.fileStem? path)

end Tasks

end RenderKit
