import ProgramImage.Descriptor
import ProgramImage.Json.Basic

/-!
# Assembly documents

A compiler describes a program as one document: source texts, the size and mask of
the global buffer, lists of names, and declarations that refer to each other by
name. The numbers of a document are words or half words; names become identifiers
only when the document is loaded.

The placement records and the instructions of a body are JSON values that nothing
here looks into.
-/

namespace ProgramImage

/-- A source file. -/
structure SourceRecord where
  file : String
  contents : String
  deriving DecidableEq, Repr

/-- The declaration of a field. -/
structure FieldRecord where
  /-- The name that is numbered. -/
  key : String
  name : String
  declaredType : String
  isOptional : Bool
  deriving DecidableEq, Repr

/-- The declared sizes and masks of a type. -/
structure SizeRecord where
  heapSize : UInt64
  inlineSize : UInt64
  assignSize : UInt64
  heapMask : Option String
  inlineMask : String
  deriving DecidableEq, Repr

/-- What a type declaration says about its kind. -/
inductive TypeKindRecord where
  | register
  | struct (fields : List String) (offsets : List UInt64)
  | ref (fields : List String) (offsets : List UInt64)
  | bigNum
  | partialVector (entry : String) (capacity : UInt32)
  | listTree (entry : String)
  | mapTree (key value : String)
  | union (form : UnionForm) (members : List String)
  deriving DecidableEq, Repr

/-- The declaration of a type. -/
structure TypeRecord where
  /-- The name that is numbered. -/
  key : String
  /-- The name for reports, when it is not the key. -/
  name : Option String
  size : SizeRecord
  kind : TypeKindRecord
  deriving DecidableEq, Repr

/-- The declaration of a struct behind a pointer. -/
structure BoxedRecord where
  /-- The name that is numbered. -/
  key : String
  name : String
  /-- The struct. -/
  wrapped : String
  deriving DecidableEq, Repr

/-- The types that represent a list type. -/
structure ListFlavorRecord where
  list : String
  repr : String
  entry : String
  /-- The chunk of four entries. -/
  vector4 : String
  /-- The chunk of eight entries. -/
  vector8 : String
  tree : String
  deriving DecidableEq, Repr

/-- The types that represent a map type. -/
structure MapFlavorRecord where
  map : String
  repr : String
  key : String
  value : String
  /-- The pair of a key and a value. -/
  tuple : String
  tree : String
  deriving DecidableEq, Repr

/-- A position in a source file. -/
structure SourceSpan where
  line : UInt32
  column : UInt32
  /-- The offset of the first byte. -/
  position : UInt32
  /-- The length in bytes. -/
  length : UInt32
  deriving DecidableEq, Repr

/-- The position of what has none. -/
def SourceSpan.unknown : SourceSpan := ⟨0, 0, 0, 0⟩

/-- A parameter. -/
structure ParamRecord where
  name : String
  type : String
  deriving DecidableEq, Repr

/-- A lambda that is passed to a primitive. -/
structure LambdaRecord where
  /-- The callable that implements it. -/
  code : String
  /-- The positions of the arguments it captures. -/
  captures : List UInt32
  deriving DecidableEq, Repr

/-- A callable with instructions. -/
structure BodyRecord where
  isUserCode : Bool
  /-- The bytes of the frame that are never traced. -/
  scalarBytes : UInt64
  /-- The bytes of the frame that may be traced. -/
  mixedBytes : UInt64
  mixedMask : String
  maskSlots : UInt32
  argMaskSize : UInt32
  paramInfo : List Json
  resultInfo : Json
  instructions : List Json
  deriving Repr

/-- A callable of the runtime. -/
structure PrimitiveRecord where
  /-- The type it is declared on. -/
  enclosingType : Option String
  implementation : String
  /-- The types bound to template parameters, in the order of the parameters. -/
  bindings : List (String × String)
  /-- The lambdas it takes, in the order of their names. -/
  lambdas : List (String × LambdaRecord)
  deriving DecidableEq, Repr

/-- What a callable declaration says about its kind. -/
inductive InvokeKindRecord where
  | body (body : BodyRecord)
  | primitive (primitive : PrimitiveRecord)
  deriving Repr

/-- The declaration of a callable. -/
structure InvokeRecord where
  /-- The name that is numbered. -/
  key : String
  name : String
  file : String
  start : SourceSpan
  stop : SourceSpan
  isRecursive : Bool
  params : List ParamRecord
  result : String
  kind : InvokeKindRecord
  deriving Repr

/-- A literal and its place in the global buffer. -/
structure LiteralRecord where
  offset : UInt64
  type : String
  text : String
  deriving DecidableEq, Repr

/-- A computed constant and its place in the global buffer. -/
structure ConstantRecord where
  offset : UInt64
  /-- The callable that computes it. -/
  invoke : String
  type : String
  deriving DecidableEq, Repr

/-- A regular expression and the text by which literals refer to it. -/
structure RegexRecord where
  text : String
  pattern : String
  deriving DecidableEq, Repr

/-- A regular expression for the values of a type. -/
structure ValidatorRecord where
  type : String
  regex : RegexRecord
  deriving DecidableEq, Repr

/-- A whole document. -/
structure Document where
  sources : List SourceRecord
  globalMask : String
  globalSize : UInt64
  typeNames : List String
  propertyNames : List String
  fieldNames : List String
  invokeNames : List String
  virtualInvokeNames : List String
  fields : List FieldRecord
  types : List TypeRecord
  boxedTypes : List BoxedRecord
  listFlavors : List ListFlavorRecord
  mapFlavors : List MapFlavorRecord
  invokes : List InvokeRecord
  literals : List LiteralRecord
  validators : List ValidatorRecord
  regexes : List RegexRecord
  constants : List ConstantRecord
  deriving Repr

namespace Document

def empty : Document where
  sources := []
  globalMask := ""
  globalSize := 0
  typeNames := []
  propertyNames := []
  fieldNames := []
  invokeNames := []
  virtualInvokeNames := []
  fields := []
  types := []
  boxedTypes := []
  listFlavors := []
  mapFlavors := []
  invokes := []
  literals := []
  validators := []
  regexes := []
  constants := []

def isEmpty (doc : Document) : Bool :=
  doc.sources.isEmpty && doc.globalMask.isEmpty && doc.globalSize == 0 &&
    doc.typeNames.isEmpty && doc.propertyNames.isEmpty && doc.fieldNames.isEmpty &&
    doc.invokeNames.isEmpty && doc.virtualInvokeNames.isEmpty && doc.fields.isEmpty &&
    doc.types.isEmpty && doc.boxedTypes.isEmpty && doc.listFlavors.isEmpty &&
    doc.mapFlavors.isEmpty && doc.invokes.isEmpty && doc.literals.isEmpty &&
    doc.validators.isEmpty && doc.regexes.isEmpty && doc.constants.isEmpty

end Document

end ProgramImage
