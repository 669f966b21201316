import RenderKit.Shader.Module

set_option autoImplicit false

/-! # Names the language knows

Types, variables and functions that are there without a declaration. -/

namespace RenderKit.Glsl

/-! ## Types -/

/-- A type that has a name in the language. -/
inductive KnownType where
  | scalar (s : Scalar)
  | vector (size : Nat) (s : Scalar)
  | matrix (columns rows : Nat)
  | image (dim : ImageDim) (kind : ImageClass) (arrayed : Bool)
  | sampler
deriving DecidableEq, Repr

def float32 : Scalar := ⟨.float, 4⟩

def float64 : Scalar := ⟨.float, 8⟩

def int32 : Scalar := ⟨.sint, 4⟩

def uint32 : Scalar := ⟨.uint, 4⟩

def truth : Scalar := ⟨.bool, 1⟩

def scalarTypes : List (String × KnownType) :=
  [("float", .scalar float32), ("double", .scalar float64), ("int", .scalar int32),
   ("uint", .scalar uint32), ("bool", .scalar truth)]

def vectorTypes : List (String × KnownType) :=
  [("vec", float32), ("dvec", float64), ("ivec", int32), ("uvec", uint32), ("bvec", truth)].flatMap
    fun family => [2, 3, 4].map fun n => (family.1 ++ toString n, .vector n family.2)

def matrixTypes : List (String × KnownType) :=
  [2, 3, 4].flatMap fun columns =>
    ("mat" ++ toString columns, .matrix columns columns) ::
      [2, 3, 4].map fun rows =>
        ("mat" ++ toString columns ++ "x" ++ toString rows, .matrix columns rows)

def imageTypes : List (String × KnownType) :=
  ["", "i", "u"].flatMap fun sign =>
    [("1D", ImageDim.d1, false), ("2D", .d2, false), ("3D", .d3, false), ("Cube", .cube, false),
     ("1DArray", .d1, true), ("2DArray", .d2, true), ("CubeArray", .cube, true)].map fun shape =>
      (sign ++ "texture" ++ shape.1, .image shape.2.1 .sampled shape.2.2)

def knownTypes : List (String × KnownType) :=
  scalarTypes ++ vectorTypes ++ matrixTypes ++ imageTypes ++
    [("sampler", .sampler), ("samplerShadow", .sampler)]

/-! ## Variables -/

structure BuiltInVariable where
  name : String
  type : KnownType
  code : Nat
  /-- Whether it is written by the shader. -/
  written : Bool

def builtInVariables : List BuiltInVariable :=
  [⟨"gl_Position", .vector 4 float32, 0, true⟩, ⟨"gl_PointSize", .scalar float32, 1, true⟩,
   ⟨"gl_VertexIndex", .scalar uint32, 42, false⟩, ⟨"gl_InstanceIndex", .scalar uint32, 43, false⟩,
   ⟨"gl_FragCoord", .vector 4 float32, 15, false⟩, ⟨"gl_PointCoord", .vector 2 float32, 16, false⟩,
   ⟨"gl_FrontFacing", .scalar truth, 17, false⟩, ⟨"gl_FragDepth", .scalar float32, 22, true⟩,
   ⟨"gl_NumWorkGroups", .vector 3 uint32, 24, false⟩,
   ⟨"gl_WorkGroupSize", .vector 3 uint32, 25, false⟩,
   ⟨"gl_WorkGroupID", .vector 3 uint32, 26, false⟩,
   ⟨"gl_LocalInvocationID", .vector 3 uint32, 27, false⟩,
   ⟨"gl_GlobalInvocationID", .vector 3 uint32, 28, false⟩,
   ⟨"gl_LocalInvocationIndex", .scalar uint32, 29, false⟩]

/-! ## Functions -/

def combinations : List String :=
  ["1D", "2D", "3D", "Cube", "1DArray", "2DArray", "CubeArray", "1DShadow", "2DShadow",
   "CubeShadow", "1DArrayShadow", "2DArrayShadow", "CubeArrayShadow"].flatMap fun shape =>
    ["sampler" ++ shape, "isampler" ++ shape, "usampler" ++ shape]

def functions : List String :=
  ["radians", "degrees", "sin", "cos", "tan", "asin", "acos", "atan", "sinh", "cosh", "tanh",
   "asinh", "acosh", "atanh", "pow", "exp", "log", "exp2", "log2", "sqrt", "inversesqrt", "abs",
   "sign", "floor", "trunc", "round", "roundEven", "ceil", "fract", "mod", "modf", "min", "max",
   "clamp", "mix", "step", "smoothstep", "isnan", "isinf", "floatBitsToInt", "floatBitsToUint",
   "intBitsToFloat", "uintBitsToFloat", "fma", "frexp", "ldexp", "packUnorm4x8", "packSnorm4x8",
   "packUnorm2x16", "packSnorm2x16", "packHalf2x16", "unpackUnorm4x8", "unpackSnorm4x8",
   "unpackUnorm2x16", "unpackSnorm2x16", "unpackHalf2x16", "length", "distance", "dot", "cross",
   "normalize", "faceforward", "reflect", "refract", "matrixCompMult", "outerProduct",
   "transpose", "determinant", "inverse", "lessThan", "lessThanEqual", "greaterThan",
   "greaterThanEqual", "equal", "notEqual", "any", "all", "not", "bitfieldExtract",
   "bitfieldInsert", "bitfieldReverse", "bitCount", "findLSB", "findMSB", "uaddCarry",
   "usubBorrow", "texture", "textureLod", "textureGrad", "textureProj", "textureOffset",
   "textureSize", "texelFetch", "texelFetchOffset", "textureGather", "dFdx", "dFdy", "fwidth",
   "dFdxFine", "dFdyFine", "fwidthFine", "dFdxCoarse", "dFdyCoarse", "fwidthCoarse",
   "memoryBarrier", "memoryBarrierBuffer", "memoryBarrierShared", "groupMemoryBarrier", "barrier"]

/-- Whether a name can be called without a declaration. -/
def callable (name : String) : Bool :=
  (knownTypes.lookup name).isSome || combinations.contains name || functions.contains name

end RenderKit.Glsl
