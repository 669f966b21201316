import RenderKit.Datum
import RenderKit.Session.Answer

set_option autoImplicit false

/-! # Written answers

What a session answers, as records. Settings that have a text of their own are written as that
text. A list of color attachments ends with a null, which stands for the index past the last. -/

namespace RenderKit.Datum

open Session

/-! ## Parts -/

def ofHandle? {kind : ObjectKind} (h : Option (Handle kind)) : Datum :=
  ofOption (h.map fun h => word h.raw)

def ofHandle {kind : ObjectKind} (h : Handle kind) : Datum := ofHandle? (some h)

def ofReflection (r : Reflection) : Datum :=
  let sorted (table : List (String × Nat)) : Datum :=
    .list ((table.mergeSort fun a b => !(b.1 < a.1)).map fun e => .list [.text e.1, nat e.2])
  .record
    [("attributes", .list (r.attributes.map fun a =>
        .list [nat a.location, .text a.name, .text (nameOf a.type), nat a.offset])),
     ("uniforms", .list (r.uniforms.map fun u =>
        .list [ofOption (u.binding.map nat), nat u.location, .text u.name,
          .text (nameOf u.type), nat u.size])),
     ("samplers", .list (r.samplers.map fun s =>
        .list [nat s.binding, .text s.name, .text (nameOf s.type)])),
     ("uniform_locations", sorted r.uniformLocations),
     ("sampler_bindings", sorted r.samplerBindings),
     ("attribute_locations", sorted r.attributeLocations),
     ("empty", .bool r.isEmpty)]

def ofCapabilities (c : Capabilities) : Datum :=
  .list
    [nat c.maxTextureSize.toNat, nat c.maxTextureUnits.toNat, nat c.maxVertexAttributes.toNat,
     nat c.maxUniformLocations.toNat, nat c.maxColorAttachments.toNat,
     .text c.maxAnisotropy.text, .bool c.computeShaders, .bool c.geometryShaders,
     .bool c.tessellation]

def ofLayout (l : VertexLayout) : Datum :=
  .record [("layout", .text l.text), ("empty", .bool l.isEmpty)]

/-! ## Objects -/

def ofContext (c : RenderContext) (device : Api) : Datum :=
  let o := c.config.options
  .record
    [("api", .text (nameOf c.config.api)), ("vsync", .bool c.config.vsync),
     ("msaa", word c.config.samples), ("validation", .text (nameOf c.config.validation)),
     ("options", .list
       [.bool o.optimize, .bool o.debugInfo, .bool o.warningsAsErrors, .text o.entryPoint,
        .list (o.defines.map fun d => texts [d.1, d.2])]),
     ("device_api", .text (nameOf device))]

def ofInfo : Info → Datum
  | .buffer b =>
      .record
        [("handle", ofHandle b.handle), ("kind", .text (nameOf b.kind)),
         ("usage", .text (nameOf b.usage)), ("size", nat b.size.toNat)]
  | .texture t size =>
      .record
        [("handle", ofHandle t.handle), ("width", word t.desc.width),
         ("height", word t.desc.height), ("format", .text (nameOf t.desc.format)),
         ("srgb", .bool t.desc.srgb), ("mipmaps", .bool t.desc.mipmaps),
         ("byte_size", nat size.toNat)]
  | .sampler s => .record [("handle", ofHandle s.handle), ("desc", .text s.desc.text)]
  | .attachment a texture =>
      .record
        [("kind", .text (nameOf a.point)), ("format", .text (nameOf a.format)),
         ("texture", ofHandle? texture)]
  | .framebuffer f colors depth =>
      .record
        [("handle", ofHandle? f.handle), ("default", .bool f.handle.isNone),
         ("width", word f.width), ("height", word f.height),
         ("colors", .list (colors.map ofHandle ++ [.null])), ("depth", ofHandle? depth)]
  | .layout l => ofLayout l
  | .program p =>
      .record
        [("program", ofHandle p.handle), ("stages", texts (p.stages.map Stage.name)),
         ("has", .list (Stage.all.map fun s => .bool (p.hasStage s)))]
  | .pipeline p program vertexBuffer indexBuffer =>
      .record
        [("vertex_array", ofHandle p.array), ("program", ofHandle program),
         ("layout", .text p.layout.text), ("topology", .text (nameOf p.topology)),
         ("rasterizer", .text p.rasterizer.text), ("depth_stencil", .text p.depthStencil.text),
         ("blend", .text (p.blend.text maxBlendAttachments)),
         ("vertex_buffer", ofHandle? vertexBuffer), ("index_buffer", ofHandle? indexBuffer)]
  | .pass p framebuffer =>
      .record
        [("clear", .text p.clearRequest.text), ("clear_empty", .bool p.clearRequest.isEmpty),
         ("count", nat p.colors.length),
         ("colors", .list (p.colors.map (fun c => .text c.text) ++ [.null])),
         ("depth_stencil", .text p.depthStencil.text), ("framebuffer", ofHandle? framebuffer)]
  | .mesh m vertexBuffer indexBuffer =>
      .record
        [("vertex_buffer", ofHandle vertexBuffer), ("index_buffer", ofHandle? indexBuffer),
         ("layout", .text m.layout.text), ("topology", .text (nameOf m.topology)),
         ("vertex_count", word m.vertexCount), ("index_count", word m.indexCount),
         ("indexed", .bool m.isIndexed)]
  | .material m program =>
      .record
        [("program", ofHandle program.handle), ("uniforms", nat m.uniforms.entries.length),
         ("debug", .text (m.debugText program))]
  | .context c device => ofContext c device
  | .commands c array target =>
      .record
        [("recording", .bool c.recording), ("validation", .text (nameOf c.validation)),
         ("pipeline", ofHandle? array),
         ("framebuffer", ofOption (target.map fun f =>
           .list [ofHandle? f.handle, word f.width, word f.height]))]

/-! ## Answers -/

def ofAnswer : Answer → Datum
  | .nothing => .null
  | .info i => ofInfo i
  | .truth b => .bool b
  | .number n => int n
  | .handle raw => word raw
  | .bytes data => .text (Hex.ofBytes data)
  | .text s => .text s
  | .reflection r name =>
      match ofReflection r, name with
      | .record fields, some name =>
          .record (fields ++
            [("lookup", .list
              [.bool (r.uniform? name).isSome, .bool (r.sampler? name).isSome,
               .bool (r.attribute? name).isSome])])
      | d, _ => d
  | .capabilities c api =>
      .record [("capabilities", ofCapabilities c), ("api", .text (nameOf api))]
  | .counts c => .list [nat c.errors, nat c.warnings, nat c.infos, nat c.debugs, nat c.total]

end RenderKit.Datum
