import RenderKit.Named
import RenderKit.Number.Shortest
import RenderKit.Text.Quoted

set_option autoImplicit false

/-! # Interfaces, limits and features of devices -/

namespace RenderKit

/-- The graphics interface a device speaks. -/
inductive Api where
  | none
  | openGL
  | vulkan
  | directX12
  | metal
deriving DecidableEq, Repr

instance : Named Api where
  all := [.none, .openGL, .vulkan, .directX12, .metal]
  name
    | .none => "None"
    | .openGL => "OpenGL"
    | .vulkan => "Vulkan"
    | .directX12 => "DirectX12"
    | .metal => "Metal"

/-- What a device offers, asked for once when it is opened. -/
structure Capabilities where
  /-- The largest width or height of a texture. -/
  maxTextureSize : UInt32
  maxTextureUnits : UInt32
  maxVertexAttributes : UInt32
  maxUniformLocations : UInt32
  maxColorAttachments : UInt32
  /-- One where anisotropic filtering is missing. -/
  maxAnisotropy : Binary32
  computeShaders : Bool
  geometryShaders : Bool
  tessellation : Bool
deriving DecidableEq, Repr

/-- A device about which nothing is known. -/
def Capabilities.unknown : Capabilities :=
  { maxTextureSize := 0
    maxTextureUnits := 0
    maxVertexAttributes := 0
    maxUniformLocations := 0
    maxColorAttachments := 0
    maxAnisotropy := .one
    computeShaders := false
    geometryShaders := false
    tessellation := false }

def Capabilities.debugText (c : Capabilities) : String :=
  recordText "DeviceCapabilities"
    [("max_texture_size", toString c.maxTextureSize.toNat),
     ("max_texture_units", toString c.maxTextureUnits.toNat),
     ("max_vertex_attributes", toString c.maxVertexAttributes.toNat),
     ("max_uniform_locations", toString c.maxUniformLocations.toNat),
     ("max_color_attachments", toString c.maxColorAttachments.toNat),
     ("max_anisotropy", c.maxAnisotropy.debugText),
     ("supports_compute", boolText c.computeShaders),
     ("supports_geometry_shaders", boolText c.geometryShaders),
     ("supports_tessellation", boolText c.tessellation)]

end RenderKit
