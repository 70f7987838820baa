import ProgramImage.Document.Basic

/-!
# Writing documents

`Document.toJson` writes a document with all of its fields. What is absent is
written as null, and a declaration with kinds has the tag of its kind among its
fields.
-/

namespace ProgramImage

open Json

/-- A text that may be absent. -/
def Json.ofText? : Option String → Json :=
  ofOption string

/-- A word. -/
def Json.ofWord (n : UInt64) : Json :=
  ofNat n.toNat

/-- A half word. -/
def Json.ofHalfWord (n : UInt32) : Json :=
  ofNat n.toNat

/-- An array of what `f` writes. -/
def Json.ofList {α : Type} (f : α → Json) (items : List α) : Json :=
  array (items.map f)

def SourceRecord.toJson (source : SourceRecord) : Json :=
  ofMembers [("fname", string source.file), ("contents", string source.contents)]

def FieldRecord.toJson (field : FieldRecord) : Json :=
  ofMembers
    [("fkey", string field.key),
     ("fname", string field.name),
     ("declaredType", string field.declaredType),
     ("isOptional", bool field.isOptional)]

def SizeRecord.toJson (size : SizeRecord) : Json :=
  ofMembers
    [("heapsize", ofWord size.heapSize),
     ("inlinedatasize", ofWord size.inlineSize),
     ("assigndatasize", ofWord size.assignSize),
     ("heapmask", ofText? size.heapMask),
     ("inlinedmask", string size.inlineMask)]

/-- The tag of a kind and its fields. -/
def TypeKindRecord.members : TypeKindRecord → List (String × Json)
  | register => [("tkind", string "Register")]
  | struct fields offsets =>
    [("tkind", string "Struct"), ("fields", ofStrings fields),
     ("fieldoffsets", ofList ofWord offsets)]
  | ref fields offsets =>
    [("tkind", string "Ref"), ("fields", ofStrings fields),
     ("fieldoffsets", ofList ofWord offsets)]
  | bigNum => [("tkind", string "BigNum")]
  | partialVector entry capacity =>
    [("tkind", string "PartialVector"), ("entrytype", string entry),
     ("capacity", ofHalfWord capacity)]
  | listTree entry => [("tkind", string "ListTree"), ("entrytype", string entry)]
  | mapTree key value =>
    [("tkind", string "MapTree"), ("keytype", string key), ("valuetype", string value)]
  | union .reference members => [("tkind", string "UnionRef"), ("subtypes", ofStrings members)]
  | union .inline members => [("tkind", string "UnionInline"), ("subtypes", ofStrings members)]
  | union .universal members =>
    [("tkind", string "UnionUniversal"), ("subtypes", ofStrings members)]

def TypeRecord.toJson (type : TypeRecord) : Json :=
  ofMembers <|
    [("tkey", string type.key), ("name", ofText? type.name), ("sizeinfo", type.size.toJson)] ++
      type.kind.members

def BoxedRecord.toJson (boxed : BoxedRecord) : Json :=
  ofMembers
    [("tkey", string boxed.key), ("name", string boxed.name), ("oftype", string boxed.wrapped)]

def ListFlavorRecord.toJson (flavor : ListFlavorRecord) : Json :=
  ofMembers
    [("ltype", string flavor.list),
     ("reprtype", string flavor.repr),
     ("entrytype", string flavor.entry),
     ("pv4type", string flavor.vector4),
     ("pv8type", string flavor.vector8),
     ("treetype", string flavor.tree)]

def MapFlavorRecord.toJson (flavor : MapFlavorRecord) : Json :=
  ofMembers
    [("ltype", string flavor.map),
     ("reprtype", string flavor.repr),
     ("keytype", string flavor.key),
     ("valuetype", string flavor.value),
     ("tupletype", string flavor.tuple),
     ("treetype", string flavor.tree)]

def SourceSpan.toJson (span : SourceSpan) : Json :=
  ofMembers
    [("line", ofHalfWord span.line),
     ("column", ofHalfWord span.column),
     ("pos", ofHalfWord span.position),
     ("span", ofHalfWord span.length)]

def ParamRecord.toJson (param : ParamRecord) : Json :=
  ofMembers [("name", string param.name), ("ptype", string param.type)]

def LambdaRecord.toJson (lambda : LambdaRecord) : Json :=
  ofMembers [("code", string lambda.code), ("cargpos", ofList ofHalfWord lambda.captures)]

/-- The tag of a kind and its fields. -/
def InvokeKindRecord.members : InvokeKindRecord → List (String × Json)
  | body b =>
    [("ikind", string "Body"),
     ("isUserCode", bool b.isUserCode),
     ("scalarstackBytes", ofWord b.scalarBytes),
     ("mixedstackBytes", ofWord b.mixedBytes),
     ("mixedMask", string b.mixedMask),
     ("maskSlots", ofHalfWord b.maskSlots),
     ("argmaskSize", ofHalfWord b.argMaskSize),
     ("paraminfo", array b.paramInfo),
     ("resultArg", b.resultInfo),
     ("body", array b.instructions)]
  | primitive p =>
    [("ikind", string "Primitive"),
     ("enclosingtype", ofText? p.enclosingType),
     ("implkeyname", string p.implementation),
     ("binds", ofMembers (p.bindings.map fun (name, type) => (name, string type))),
     ("pcodes", ofMembers (p.lambdas.map fun (name, lambda) => (name, lambda.toJson)))]

def InvokeRecord.toJson (invoke : InvokeRecord) : Json :=
  ofMembers <|
    [("ikey", string invoke.key),
     ("name", string invoke.name),
     ("srcFile", string invoke.file),
     ("sinfoStart", invoke.start.toJson),
     ("sinfoEnd", invoke.stop.toJson),
     ("recursive", bool invoke.isRecursive),
     ("params", ofList ParamRecord.toJson invoke.params),
     ("resultType", string invoke.result)] ++ invoke.kind.members

def LiteralRecord.toJson (literal : LiteralRecord) : Json :=
  ofMembers
    [("offset", ofWord literal.offset), ("type", string literal.type),
     ("value", string literal.text)]

def ConstantRecord.toJson (constant : ConstantRecord) : Json :=
  ofMembers
    [("offset", ofWord constant.offset), ("invoke", string constant.invoke),
     ("type", string constant.type)]

def RegexRecord.toJson (regex : RegexRecord) : Json :=
  ofMembers [("restr", string regex.text), ("pattern", string regex.pattern)]

def ValidatorRecord.toJson (validator : ValidatorRecord) : Json :=
  ofMembers [("vtype", string validator.type), ("regex", validator.regex.toJson)]

def Document.toJson (doc : Document) : Json :=
  ofMembers
    [("src", ofList SourceRecord.toJson doc.sources),
     ("cmask", string doc.globalMask),
     ("cbuffsize", ofWord doc.globalSize),
     ("typenames", ofStrings doc.typeNames),
     ("propertynames", ofStrings doc.propertyNames),
     ("fieldnames", ofStrings doc.fieldNames),
     ("invokenames", ofStrings doc.invokeNames),
     ("vinvokenames", ofStrings doc.virtualInvokeNames),
     ("fielddecls", ofList FieldRecord.toJson doc.fields),
     ("typedecls", ofList TypeRecord.toJson doc.types),
     ("boxeddecls", ofList BoxedRecord.toJson doc.boxedTypes),
     ("listflavors", ofList ListFlavorRecord.toJson doc.listFlavors),
     ("mapflavors", ofList MapFlavorRecord.toJson doc.mapFlavors),
     ("invdecls", ofList InvokeRecord.toJson doc.invokes),
     ("litdecls", ofList LiteralRecord.toJson doc.literals),
     ("validators", ofList ValidatorRecord.toJson doc.validators),
     ("regexes", ofList RegexRecord.toJson doc.regexes),
     ("constdecls", ofList ConstantRecord.toJson doc.constants)]

end ProgramImage
