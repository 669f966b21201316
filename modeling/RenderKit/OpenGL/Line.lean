import RenderKit.OpenGL.Driver
import RenderKit.Text.Quoted

set_option autoImplicit false

/-! # Calls in writing

Every command and most questions have a line: the name of the entry point and its arguments.
Settings are written as their numbers, truth values as zero and one, floats as their patterns. -/

namespace RenderKit

/-- A name with its arguments. -/
def callText (name : String) (arguments : List String) : String :=
  " ".intercalate (name :: arguments)

def wordText (n : UInt32) : String := toString n.toNat

def signedText (n : Int32) : String := toString n.toInt

def bitText (b : Bool) : String := if b then "1" else "0"

/-- Zero stands for no slot. -/
def slotText : Option AttachmentSlot → String
  | none => "0"
  | some slot => wordText slot.code

/-- The target of all textures that are not arrays of textures. -/
def textureTargetText : String := "3553"

def framebufferTargetText : String := "36160"

/-- The plural of the objects of a kind. -/
def ObjectKind.plural (kind : ObjectKind) : String := kind.title ++ "s"

namespace GlObject

/-- The entry point that creates an object. -/
def entryPoint : GlObject → String
  | .shader _ => "CreateShader"
  | .program => "CreateProgram"
  | object => "Gen" ++ object.kind.plural

def line (object : GlObject) : String :=
  match object with
  | .shader stage => callText object.entryPoint [wordText stage.code]
  | _ => object.entryPoint

end GlObject

/-- Shaders and programs are deleted one at a time, all else in groups. -/
def deletionText (kind : ObjectKind) (name : GlName) : String :=
  match kind with
  | .shader | .program => callText ("Delete" ++ kind.title) [wordText name]
  | _ => callText ("Delete" ++ kind.plural) [wordText name]

def uniformText (location : Int32) (value : UniformValue) : String :=
  let floats (xs : List Binary32) : List String := signedText location :: xs.map Binary32.text
  let matrix (xs : List Binary32) : List String :=
    [signedText location, "1", "0", Binary32.listText xs]
  match value with
  | .float x => callText "Uniform1f" (floats [x])
  | .int n => callText "Uniform1i" [signedText location, signedText n]
  | .vec2 v => callText "Uniform2f" (floats v.toList)
  | .vec3 v => callText "Uniform3f" (floats v.toList)
  | .vec4 v => callText "Uniform4f" (floats v.toList)
  | .mat3 m => callText "UniformMatrix3fv" (matrix m.toList)
  | .mat4 m => callText "UniformMatrix4fv" (matrix m.toList)

/-- The planes of a clear, as one number. -/
def clearMask (color depth stencil : Bool) : Nat :=
  (if color then 16384 else 0) + (if depth then 256 else 0) + (if stencil then 1024 else 0)

def GlCommand.line : GlCommand → String
  | .delete kind name => deletionText kind name
  | .bindBuffer target buffer => callText "BindBuffer" [wordText target.code, wordText buffer]
  | .bindBufferBase target index buffer =>
      callText "BindBufferBase" [wordText target.code, wordText index, wordText buffer]
  | .bufferData target data usage =>
      callText "BufferData"
        [wordText target.code, toString data.length, Hex.ofBytes data, wordText usage.code]
  | .bufferSize target size usage =>
      callText "BufferData" [wordText target.code, signedText size, "null", wordText usage.code]
  | .bufferSubData target offset data =>
      callText "BufferSubData"
        [wordText target.code, signedText offset, toString data.length, Hex.ofBytes data]
  | .activeTexture unit => callText "ActiveTexture" [wordText unit]
  | .bindTexture texture => callText "BindTexture" [textureTargetText, wordText texture]
  | .unpackAlignment bytes => callText "PixelStorei" ["3317", signedText bytes]
  | .texImage format width height data =>
      callText "TexImage2D"
        [textureTargetText, "0", wordText format.kept, signedText width, signedText height, "0",
         wordText format.pixel.code, wordText format.type.code,
         if data.isSome then "data" else "null"]
  | .texParameter parameter value =>
      callText "TexParameteri" [textureTargetText, wordText parameter.code, wordText value]
  | .generateMipmap => callText "GenerateMipmap" [textureTargetText]
  | .samplerParameter sampler parameter value =>
      callText "SamplerParameteri" [wordText sampler, wordText parameter.code, wordText value]
  | .samplerBorderColor sampler color =>
      callText "SamplerParameterfv" [wordText sampler, "4100", color.text]
  | .samplerAnisotropy sampler level =>
      callText "SamplerParameterf" [wordText sampler, "34046", level.text]
  | .bindSampler unit sampler => callText "BindSampler" [wordText unit, wordText sampler]
  | .bindFramebuffer framebuffer =>
      callText "BindFramebuffer" [framebufferTargetText, wordText framebuffer]
  | .framebufferTexture slot texture =>
      callText "FramebufferTexture2D"
        [framebufferTargetText, wordText slot.code, textureTargetText, wordText texture, "0"]
  | .drawBuffers slots => callText "DrawBuffers" [listText (slots.map slotText)]
  | .readBuffer slot => callText "ReadBuffer" [slotText slot]
  | .shaderSource shader source =>
      callText "ShaderSource" [wordText shader, quoted (firstLine source)]
  | .compileShader shader => callText "CompileShader" [wordText shader]
  | .attachShader program shader => callText "AttachShader" [wordText program, wordText shader]
  | .detachShader program shader => callText "DetachShader" [wordText program, wordText shader]
  | .linkProgram program => callText "LinkProgram" [wordText program]
  | .useProgram program => callText "UseProgram" [wordText program]
  | .uniform location value => uniformText location value
  | .bindVertexArray array => callText "BindVertexArray" [wordText array]
  | .enableAttribute index => callText "EnableVertexAttribArray" [wordText index]
  | .attributePointer index components scalar normalized stride offset =>
      callText "VertexAttribPointer"
        [wordText index, toString components, wordText scalar.code, bitText normalized,
         signedText stride, signedText offset]
  | .attributeIntegerPointer index components scalar stride offset =>
      callText "VertexAttribIPointer"
        [wordText index, toString components, wordText scalar.code, signedText stride,
         signedText offset]
  | .switch what on => callText (if on then "Enable" else "Disable") [wordText what.code]
  | .cullFace face => callText "CullFace" [wordText face.code]
  | .frontFace winding => callText "FrontFace" [wordText winding.code]
  | .polygonMode mode =>
      callText "PolygonMode" [wordText Face.frontAndBack.code, wordText mode.code]
  | .polygonOffset factor units => callText "PolygonOffset" [factor.text, units.text]
  | .depthMask on => callText "DepthMask" [bitText on]
  | .depthFunc op => callText "DepthFunc" [wordText op.code]
  | .stencilFunc face op reference mask =>
      callText "StencilFuncSeparate"
        [wordText face.code, wordText op.code, signedText reference, wordText mask]
  | .stencilOp face fail depthFail pass =>
      callText "StencilOpSeparate"
        [wordText face.code, wordText fail.code, wordText depthFail.code, wordText pass.code]
  | .stencilMask face mask => callText "StencilMaskSeparate" [wordText face.code, wordText mask]
  | .switchBlend drawBuffer on =>
      callText (if on then "Enablei" else "Disablei") [wordText blendCode, wordText drawBuffer]
  | .blendFunc drawBuffer sourceColor targetColor sourceAlpha targetAlpha =>
      callText "BlendFuncSeparatei"
        [wordText drawBuffer, wordText sourceColor.code, wordText targetColor.code,
         wordText sourceAlpha.code, wordText targetAlpha.code]
  | .blendEquation drawBuffer color alpha =>
      callText "BlendEquationSeparatei"
        [wordText drawBuffer, wordText color.code, wordText alpha.code]
  | .colorMask drawBuffer mask =>
      callText "ColorMaski"
        [wordText drawBuffer, bitText mask.red, bitText mask.green, bitText mask.blue,
         bitText mask.alpha]
  | .blendColor color => callText "BlendColor" (color.toList.map Binary32.text)
  | .clearColor color => callText "ClearColor" (color.toList.map Binary32.text)
  | .clearDepth depth => callText "ClearDepth" [depth.wideText]
  | .clearStencil stencil => callText "ClearStencil" [signedText stencil]
  | .clear color depth stencil => callText "Clear" [toString (clearMask color depth stencil)]
  | .viewport x y width height => callText "Viewport" ([x, y, width, height].map signedText)
  | .scissor x y width height => callText "Scissor" ([x, y, width, height].map signedText)
  | .drawArrays topology first count =>
      callText "DrawArrays" [wordText topology.code, signedText first, signedText count]
  | .drawElements topology count offset base =>
      callText "DrawElementsBaseVertex"
        [wordText topology.code, signedText count, wordText indexTypeCode, signedText offset,
         signedText base]
  | .debugMessageCallback => "DebugMessageCallback"

/-- The line of a question with its reply. Questions about bindings, limits and failures have
    none. -/
def GlQuery.line? : (q : GlQuery) → q.Reply → Option String
  | .create object, name => some (object.line ++ " -> " ++ wordText name)
  | .bufferContents target offset length, _ =>
      some (callText "GetBufferSubData"
        [wordText target.code, signedText offset, toString length])
  | .framebufferStatus, _ => some (callText "CheckFramebufferStatus" [framebufferTargetText])
  | .uniformLocation program name, _ =>
      some (callText "GetUniformLocation" [wordText program, name])
  | .attributeLocation program name, _ =>
      some (callText "GetAttribLocation" [wordText program, name])
  | .activeUniform program index, _ =>
      some (callText "GetActiveUniform" [wordText program, toString index])
  | _, _ => none

end RenderKit
