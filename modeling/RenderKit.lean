import RenderKit.Datum.Answer
import RenderKit.Datum.OpenGL
import RenderKit.Datum.Scripted
import RenderKit.Datum.Step
import RenderKit.Journal.Console
import RenderKit.Number.Scientific
import RenderKit.Proofs.Ledger.Sessions
import RenderKit.Scene.Camera
import RenderKit.Scene.Transform
import RenderKit.Session.Play
import RenderKit.Proofs.Clears.Masks
import RenderKit.Proofs.Clears.Passes
import RenderKit.Proofs.Draws.Commands
import RenderKit.Proofs.Draws.Sessions
import RenderKit.Proofs.Modes.Blind
import RenderKit.Proofs.Modes.Lockstep
import RenderKit.Proofs.Modes.Runs
import RenderKit.Proofs.Clears.Colors
import RenderKit.Proofs.Commands.Sessions
import RenderKit.Proofs.Draws.Elements
import RenderKit.Proofs.Uniforms.Cache
import RenderKit.Proofs.Uniforms.Current
import RenderKit.Proofs.Uniforms.Lookups
import RenderKit.Proofs.Uniforms.Members
import RenderKit.Proofs.OpenGL.Cleanup
import RenderKit.Proofs.OpenGL.Uploads
import RenderKit.Proofs.Pipelines.Binding
import RenderKit.Proofs.Pipelines.Layouts
import RenderKit.Proofs.Resources.Textures
import RenderKit.Proofs.Shaders.Bindings
import RenderKit.Proofs.Shaders.Building
import RenderKit.Proofs.Shaders.Sections
import RenderKit.Proofs.Draws.Numbers
import RenderKit.Proofs.Pipelines.Attributes
import RenderKit.Proofs.Targets.Formats
import RenderKit.Proofs.Buffers.Accesses
import RenderKit.Proofs.Contexts
import RenderKit.Proofs.Meshes.Draws
import RenderKit.Proofs.Scene.Matrices
import RenderKit.Proofs.Scene.Projections
import RenderKit.Proofs.Scene.Sessions
import RenderKit.Proofs.Shaders.Interfaces
import RenderKit.Proofs.Shaders.Splitting
import RenderKit.Proofs.Shaders.Tables
import RenderKit.Proofs.Resources.Images
import RenderKit.Proofs.Shaders.Warnings
