import ProgramImage.Document.Basic
import ProgramImage.Json.Reader

/-!
# Reading documents

Every field of a document may be left out or null, and then reads as empty. Below
the top level a field may be left out only where its reader here has a default.
`Document.ofBytes` reads a text, and `Document.ofJson` a value that is read already.
-/

namespace ProgramImage

open Reader

namespace Field

variable {α : Type}

/-- A field that has to be there. -/
def required (key : String) (read : Reader α) : Field α :=
  ⟨key, read, none⟩

/-- A field that may be left out. -/
def withDefault (key : String) (default : α) (read : Reader α) : Field α :=
  ⟨key, read, some default⟩

/-- A field that may be left out or null. -/
def nullable (key : String) (default : α) (read : Reader α) : Field α :=
  ⟨key, orDefault default read, some default⟩

end Field

open ProgramImage.Fields ProgramImage.Field

def SourceRecord.reader : Reader SourceRecord :=
  record
    (.field (required "fname" string) <|
     .field (required "contents" string)
     done)
    SourceRecord.mk

def FieldRecord.reader : Reader FieldRecord :=
  record
    (.field (required "fkey" string) <|
     .field (required "fname" string) <|
     .field (required "declaredType" string) <|
     .field (withDefault "isOptional" false bool)
     done)
    FieldRecord.mk

def SizeRecord.reader : Reader SizeRecord :=
  record
    (.field (withDefault "heapsize" 0 word) <|
     .field (required "inlinedatasize" word) <|
     .field (required "assigndatasize" word) <|
     .field (withDefault "heapmask" none (optional string)) <|
     .field (required "inlinedmask" string)
     done)
    SizeRecord.mk

namespace TypeKindRecord

/-- Reads the field layout of a struct or entity. -/
def ofLayout (make : List String → List UInt64 → TypeKindRecord) :
    KindReader TypeKindRecord :=
  ofKept
    (.field (withDefault "fields" [] (list string)) <|
     .field (withDefault "fieldoffsets" [] (list word))
     done)
    make

/-- Reads the members of a union. -/
def ofUnion (form : UnionForm) :
    KindReader TypeKindRecord :=
  ofKept (.field (required "subtypes" (list string)) done) (union form)

/-- The kinds of declared types by their tags. -/
def kinds : List (String × KindReader TypeKindRecord) :=
  [("Register", fun _ => .ok register),
   ("Struct", ofLayout struct),
   ("Ref", ofLayout ref),
   ("BigNum", fun _ => .ok bigNum),
   ("PartialVector", ofKept
     (.field (required "entrytype" string) <|
      .field (required "capacity" halfWord)
      done)
     partialVector),
   ("ListTree", ofKept (.field (required "entrytype" string) done) listTree),
   ("MapTree", ofKept
     (.field (required "keytype" string) <|
      .field (required "valuetype" string)
      done)
     mapTree),
   ("UnionRef", ofUnion .reference),
   ("UnionInline", ofUnion .inline),
   ("UnionUniversal", ofUnion .universal)]

end TypeKindRecord

def TypeRecord.reader : Reader TypeRecord :=
  tagged
    (.field (required "tkey" string) <|
     .field (withDefault "name" none (optional string)) <|
     .field (required "sizeinfo" SizeRecord.reader)
     done)
    TypeRecord.mk "tkind" TypeKindRecord.kinds

def BoxedRecord.reader : Reader BoxedRecord :=
  record
    (.field (required "tkey" string) <|
     .field (required "name" string) <|
     .field (required "oftype" string)
     done)
    BoxedRecord.mk

def ListFlavorRecord.reader : Reader ListFlavorRecord :=
  record
    (.field (required "ltype" string) <|
     .field (required "reprtype" string) <|
     .field (required "entrytype" string) <|
     .field (required "pv4type" string) <|
     .field (required "pv8type" string) <|
     .field (required "treetype" string)
     done)
    ListFlavorRecord.mk

def MapFlavorRecord.reader : Reader MapFlavorRecord :=
  record
    (.field (required "ltype" string) <|
     .field (required "reprtype" string) <|
     .field (required "keytype" string) <|
     .field (required "valuetype" string) <|
     .field (required "tupletype" string) <|
     .field (required "treetype" string)
     done)
    MapFlavorRecord.mk

def SourceSpan.reader : Reader SourceSpan :=
  record
    (.field (withDefault "line" 0 halfWord) <|
     .field (withDefault "column" 0 halfWord) <|
     .field (withDefault "pos" 0 halfWord) <|
     .field (withDefault "span" 0 halfWord)
     done)
    SourceSpan.mk

def ParamRecord.reader : Reader ParamRecord :=
  record
    (.field (required "name" string) <|
     .field (required "ptype" string)
     done)
    ParamRecord.mk

def LambdaRecord.reader : Reader LambdaRecord :=
  record
    (.field (required "code" string) <|
     .field (withDefault "cargpos" [] (list halfWord))
     done)
    LambdaRecord.mk

namespace InvokeKindRecord

/-- The kinds of callables by their tags. -/
def kinds : List (String × KindReader InvokeKindRecord) :=
  [("Body", fun members => (ofKept
     (.field (withDefault "isUserCode" false bool) <|
      .field (withDefault "scalarstackBytes" 0 word) <|
      .field (withDefault "mixedstackBytes" 0 word) <|
      .field (withDefault "mixedMask" "" string) <|
      .field (withDefault "maskSlots" 0 halfWord) <|
      .field (withDefault "argmaskSize" 0 halfWord) <|
      .field (withDefault "paraminfo" [] (list json)) <|
      .field (withDefault "resultArg" .null json) <|
      .field (withDefault "body" [] (list json))
      done)
     BodyRecord.mk members).map body),
   ("Primitive", fun members => (ofKept
     (.field (withDefault "enclosingtype" none (optional string)) <|
      .field (required "implkeyname" string) <|
      .field (withDefault "binds" [] (mapping string)) <|
      .field (withDefault "pcodes" [] (mapping LambdaRecord.reader))
      done)
     PrimitiveRecord.mk members).map primitive)]

end InvokeKindRecord

def InvokeRecord.reader : Reader InvokeRecord :=
  tagged
    (.field (required "ikey" string) <|
     .field (required "name" string) <|
     .field (withDefault "srcFile" "" string) <|
     .field (withDefault "sinfoStart" .unknown SourceSpan.reader) <|
     .field (withDefault "sinfoEnd" .unknown SourceSpan.reader) <|
     .field (withDefault "recursive" false bool) <|
     .field (withDefault "params" [] (list ParamRecord.reader)) <|
     .field (required "resultType" string)
     done)
    InvokeRecord.mk "ikind" InvokeKindRecord.kinds

def LiteralRecord.reader : Reader LiteralRecord :=
  record
    (.field (required "offset" word) <|
     .field (required "type" string) <|
     .field (required "value" string)
     done)
    LiteralRecord.mk

def ConstantRecord.reader : Reader ConstantRecord :=
  record
    (.field (required "offset" word) <|
     .field (required "invoke" string) <|
     .field (required "type" string)
     done)
    ConstantRecord.mk

def RegexRecord.reader : Reader RegexRecord :=
  record
    (.field (required "restr" string) <|
     .field (required "pattern" string)
     done)
    RegexRecord.mk

def ValidatorRecord.reader : Reader ValidatorRecord :=
  record
    (.field (required "vtype" string) <|
     .field (required "regex" RegexRecord.reader)
     done)
    ValidatorRecord.mk

namespace Document

def reader : Reader Document :=
  record
    (.field (nullable "src" [] (list SourceRecord.reader)) <|
     .field (nullable "cmask" "" string) <|
     .field (nullable "cbuffsize" 0 word) <|
     .field (nullable "typenames" [] (list string)) <|
     .field (nullable "propertynames" [] (list string)) <|
     .field (nullable "fieldnames" [] (list string)) <|
     .field (nullable "invokenames" [] (list string)) <|
     .field (nullable "vinvokenames" [] (list string)) <|
     .field (nullable "fielddecls" [] (list FieldRecord.reader)) <|
     .field (nullable "typedecls" [] (list TypeRecord.reader)) <|
     .field (nullable "boxeddecls" [] (list BoxedRecord.reader)) <|
     .field (nullable "listflavors" [] (list ListFlavorRecord.reader)) <|
     .field (nullable "mapflavors" [] (list MapFlavorRecord.reader)) <|
     .field (nullable "invdecls" [] (list InvokeRecord.reader)) <|
     .field (nullable "litdecls" [] (list LiteralRecord.reader)) <|
     .field (nullable "validators" [] (list ValidatorRecord.reader)) <|
     .field (nullable "regexes" [] (list RegexRecord.reader)) <|
     .field (nullable "constdecls" [] (list ConstantRecord.reader))
     done)
    Document.mk

/-- Reads a document from the bytes of a text, which holds nothing else but blanks. -/
def ofBytes (bytes : List UInt8) : Except ReadError Document := do
  let (node, rest?) := Node.parse bytes
  let doc ← reader .wholeText node
  match rest? with
  | some rest =>
    if (Node.skipBlanks rest).isEmpty then return doc else throw (.text .malformed)
  | none => return doc

/-- Reads a document from a value. -/
def ofJson (json : Json) : Except ReadError Document :=
  reader .value (.ofJson json)

end Document

end ProgramImage
