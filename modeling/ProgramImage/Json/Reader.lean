import ProgramImage.Json.Parser
import ProgramImage.Text.Quoted

/-!
# Reading typed values from JSON

A `Reader` takes a tree to a value, or says what does not fit. Readers go through a
tree in its order, so that of several faults and misfits the first is reported.

A record is an object with named fields, or an array of its fields in the order of
their declaration. `Fields` lists the fields of a record together with the function
that builds it; `Reader.record` reads both forms, and `Reader.tagged` reads a record
that goes on with the fields of one of several kinds, chosen by a tag.

## Main definitions

* `Reader.string`, `Reader.bool`, `Reader.upTo`, `Reader.json` read single values.
* `Reader.optional`, `Reader.orDefault`, `Reader.list`, `Reader.mapping` combine readers.
* `Field` and `Fields` describe records.
-/

namespace ProgramImage

/-- Why a text does not read as a value. -/
inductive ReadError where
  /-- The text itself has a fault. -/
  | text (fault : Fault)
  | missingField (key : String)
  | duplicateField (key : String)
  /-- A tag that names no kind. -/
  | unknownKind (tag : String)
  /-- An array that is too short or too long for its record. -/
  | invalidLength (length : Nat)
  /-- A whole number outside the range of its field. -/
  | invalidValue
  /-- A value of another type. -/
  | invalidType
  deriving DecidableEq, Repr

def ReadError.message : ReadError → String
  | text .unfinished => "the text ends inside a value"
  | text .malformed => "the text is not JSON"
  | missingField key => "missing field " ++ Text.quote key
  | duplicateField key => "duplicate field " ++ Text.quote key
  | unknownKind tag => "unknown kind " ++ Text.quote tag
  | invalidLength length => "invalid length " ++ toString length
  | invalidValue => "a number is out of range"
  | invalidType => "a value has the wrong type"

/-- Where a tree comes from: a text, in which values may still nest a number of levels
    deep, or a value that is complete already. -/
inductive Origin where
  | text (levels : Nat)
  | value
  deriving DecidableEq, Repr

namespace Origin

/-- The origin of a whole text. -/
def wholeText : Origin := text 128

/-- The origin of what a container holds. -/
def enter : Origin → Except ReadError Origin
  | text levels => if levels ≤ 1 then .error (.text .malformed) else .ok (text (levels - 1))
  | value => .ok value

end Origin

/-- Reads a tree as a value. -/
abbrev Reader (α : Type) := Origin → Node → Except ReadError α

/-- A fault of the text as a read error. -/
def wanted {α : Type} : Except Fault α → Except ReadError α
  | .ok a => .ok a
  | .error fault => .error (.text fault)

/-- Fails at a break before the end of a container. -/
def closed : Option Break → Except ReadError Unit
  | none => .ok ()
  | some stop => .error (.text stop.wanted)

/-- The error of a value that has another type than asked for. A fault of the value
    itself comes first. -/
def Node.unexpected : Node → ReadError
  | .broken stop => .text stop.wanted
  | .number (.error fault) => .text fault
  | .string (.error fault) => .text fault
  | _ => .invalidType

namespace Reader

/-- Reads a text. -/
def string : Reader String
  | _, .string (.ok s) => .ok s
  | _, node => .error node.unexpected

/-- Reads a truth value. -/
def bool : Reader Bool
  | _, .bool b => .ok b
  | _, node => .error node.unexpected

/-- Reads a natural number up to a largest one. -/
def upTo (max : Nat) : Reader Nat
  | _, .number (.ok (.int i)) =>
    if 0 ≤ i && i ≤ max then .ok i.toNat else .error .invalidValue
  | _, node => .error node.unexpected

/-- Reads a natural number of 64 bits. -/
def word : Reader UInt64 :=
  fun origin node => (upTo max64 origin node).map UInt64.ofNat

/-- Reads a natural number of 32 bits. -/
def halfWord : Reader UInt32 :=
  fun origin node => (upTo max32 origin node).map UInt32.ofNat

/-- Reads null as absent. -/
def optional {α : Type} (reader : Reader α) : Reader (Option α)
  | _, .null => .ok none
  | origin, node => (reader origin node).map some

/-- Reads null as a default. -/
def orDefault {α : Type} (default : α) (reader : Reader α) : Reader α
  | _, .null => .ok default
  | origin, node => reader origin node

/-- Reads the items of an array, one after the other. -/
def items {α : Type} (reader : Reader α) (origin : Origin) : List Node → Except ReadError (List α)
  | [] => .ok []
  | item :: rest => do
    let first ← reader origin item
    let others ← items reader origin rest
    return first :: others

/-- Reads an array. -/
def list {α : Type} (reader : Reader α) : Reader (List α)
  | origin, .array nodes stop => do
    let inside ← origin.enter
    let values ← items reader inside nodes
    closed stop
    return values
  | _, node => .error node.unexpected

/-- Reads the members of an object, one after the other. -/
def members {α : Type} (reader : Reader α) (origin : Origin) :
    Node.Members → Except ReadError (List (String × α))
  | [] => .ok []
  | (key, value) :: rest => do
    let key ← wanted key
    let first ← reader origin value
    let others ← members reader origin rest
    return (key, first) :: others

/-- Reads an object with any keys, of which a later one replaces an earlier one. -/
def mapping {α : Type} (reader : Reader α) : Reader (List (String × α))
  | origin, .object nodes stop => do
    let inside ← origin.enter
    let values ← members reader inside nodes
    closed stop
    return Keyed.ofList values
  | _, node => .error node.unexpected

end Reader

mutual

def Node.toJson (origin : Origin) : Node → Except ReadError Json
  | .null => .ok .null
  | .bool b => .ok (.bool b)
  | .number n => (wanted n).map Json.number
  | .string s => (wanted s).map Json.string
  | .array nodes stop => do
    let inside ← origin.enter
    let values ← Node.toJsonItems inside nodes
    closed stop
    return .array values
  | .object nodes stop => do
    let inside ← origin.enter
    let values ← Node.toJsonMembers inside nodes
    closed stop
    return .ofMembers values
  | .broken stop => .error (.text stop.wanted)

/-- Reads any items. -/
def Node.toJsonItems (origin : Origin) : List Node → Except ReadError (List Json)
  | [] => .ok []
  | item :: rest => do
    let first ← item.toJson origin
    let others ← Node.toJsonItems origin rest
    return first :: others

/-- Reads any members. -/
def Node.toJsonMembers (origin : Origin) :
    Node.Members → Except ReadError (List (String × Json))
  | [] => .ok []
  | (key, value) :: rest => do
    let key ← wanted key
    let first ← value.toJson origin
    let others ← Node.toJsonMembers origin rest
    return (key, first) :: others

end

namespace Reader

/-- Reads any value. -/
def json : Reader Json :=
  Node.toJson

end Reader

/-- A field of a record: its key, the reader of its value, and what stands for it when
    it is absent. A field without a default is required. -/
structure Field (α : Type) where
  key : String
  read : Reader α
  absent : Option α := none

/-- The fields of a record in the order of their declaration. `Fields ρ σ` fills in a
    function of type `σ`, field by field, until a record of type `ρ` is left. -/
inductive Fields (ρ : Type) : Type → Type 1 where
  | done : Fields ρ ρ
  | field {α σ : Type} (first : Field α) (rest : Fields ρ σ) : Fields ρ (α → σ)

namespace Fields

variable {ρ : Type}

/-- What is known of the fields while an object is read. -/
def Slots : {σ : Type} → Fields ρ σ → Type
  | _, done => Unit
  | _, @field _ α _ _ rest => Option α × rest.Slots

/-- Before any field is read. -/
def vacant : {σ : Type} → (fields : Fields ρ σ) → fields.Slots
  | _, done => ()
  | _, field _ rest => (none, vacant rest)

/-- Whether a key names a field. -/
def knows (key : String) : {σ : Type} → Fields ρ σ → Bool
  | _, done => false
  | _, field first rest => first.key == key || rest.knows key

/-- Reads the value of a field that has a given key. A field given twice is refused
    before its value is read; a key that names no field changes nothing. -/
def fill (origin : Origin) (key : String) (value : Node) :
    {σ : Type} → (fields : Fields ρ σ) → fields.Slots → Except ReadError fields.Slots
  | _, done, slots => .ok slots
  | _, field first rest, slots =>
    if first.key = key then
      if (Prod.fst slots).isSome then .error (.duplicateField key)
      else (first.read origin value).map fun a => (some a, Prod.snd slots)
    else
      (fill origin key value rest (Prod.snd slots)).map fun later => (Prod.fst slots, later)

/-- Builds the record. Of the required fields that are absent the first is reported. -/
def build : {σ : Type} → (fields : Fields ρ σ) → σ → fields.Slots → Except ReadError ρ
  | _, done, record, _ => .ok record
  | _, field first rest, make, slots =>
    match Prod.fst slots <|> first.absent with
    | some a => rest.build (make a) (Prod.snd slots)
    | none => .error (.missingField first.key)

/-- Builds the record from the items of an array, of which `count` are read. The result
    goes with the items that are left. -/
def ofItems (origin : Origin) (stop : Option Break) :
    {σ : Type} → Fields ρ σ → σ → Nat → List Node → Except ReadError (ρ × List Node)
  | _, done, record, _, items => .ok (record, items)
  | _, field first rest, make, count, item :: items => do
    let a ← first.read origin item
    rest.ofItems origin stop (make a) (count + 1) items
  | _, field first rest, make, count, [] => do
    closed stop
    match first.absent with
    | some a => rest.ofItems origin stop (make a) (count + 1) []
    | none => .error (.invalidLength count)

/-- Reads the members of an object into the fields, and passes over the others. -/
def fillAll (origin : Origin) {σ : Type} (fields : Fields ρ σ) (slots : fields.Slots) :
    Node.Members → Except ReadError fields.Slots
  | [] => .ok slots
  | (key, value) :: rest => do
    let key ← wanted key
    if fields.knows key then
      let slots ← fields.fill origin key value slots
      fields.fillAll origin slots rest
    else
      wanted value.skip
      fields.fillAll origin slots rest

end Fields

namespace Reader

variable {ρ σ τ : Type}

/-- Refuses the items of an array that a record has no fields for. -/
def noFurther (origin : Origin) (length : Nat) (stop : Option Break) :
    List Node → Except ReadError Unit
  | [] => closed stop
  | _ :: _ =>
    match origin with
    | .text _ => .error (.text .malformed)
    | .value => .error (.invalidLength length)

/-- Reads a record from an object or from an array of its fields. -/
def record (fields : Fields ρ σ) (make : σ) : Reader ρ
  | origin, .object members stop => do
    let inside ← origin.enter
    let slots ← fields.fillAll inside fields.vacant members
    closed stop
    fields.build make slots
  | origin, .array items stop => do
    let inside ← origin.enter
    let (result, rest) ← fields.ofItems inside stop make 0 items
    noFurther origin items.length stop rest
    return result
  | _, node => .error node.unexpected

/-- Reads the members of an object into the fields. Any other member has to be a value,
    and is kept. -/
def fillKeeping (fields : Fields ρ σ) (origin : Origin) (slots : fields.Slots) :
    Node.Members → Except ReadError (fields.Slots × List (String × Node))
  | [] => .ok (slots, [])
  | (key, value) :: rest => do
    let key ← wanted key
    if fields.knows key then
      let slots ← fields.fill origin key value slots
      fillKeeping fields origin slots rest
    else
      let _ ← value.toJson origin
      let (slots, others) ← fillKeeping fields origin slots rest
      return (slots, (key, value) :: others)

/-- Takes the tag out of members that were kept: what it chooses, and the others. -/
def takeTag (tag : String) (choose : Node → Except ReadError τ) (chosen : Option τ) :
    List (String × Node) → Except ReadError (τ × Node.Members)
  | [] =>
    match chosen with
    | some kind => .ok (kind, [])
    | none => .error (.missingField tag)
  | (key, value) :: rest =>
    if key = tag then
      if chosen.isSome then .error (.duplicateField tag)
      else do
        let kind ← choose value
        takeTag tag choose (some kind) rest
    else do
      let (kind, others) ← takeTag tag choose chosen rest
      return (kind, (.ok key, value) :: others)

/-- Reads the fields of a kind from members that were kept. -/
abbrev KindReader (τ : Type) := Node.Members → Except ReadError τ

/-- The reader of a kind with the given fields. -/
def ofKept (fields : Fields ρ σ) (make : σ) : KindReader ρ := fun members => do
  let slots ← fields.fillAll .value fields.vacant members
  fields.build make slots

/-- Reads a record that goes on with the fields of a kind. The tag may stand anywhere in
    the object. The fields common to all kinds are read first, then the tag, then the
    fields of its kind. -/
def tagged (fields : Fields (τ → ρ) σ) (make : σ) (tag : String)
    (kinds : List (String × KindReader τ)) : Reader ρ
  | origin, .object members stop => do
    let inside ← origin.enter
    let (slots, kept) ← fillKeeping fields inside fields.vacant members
    closed stop
    let make ← fields.build make slots
    let choose : Node → Except ReadError (KindReader τ)
      | .string (.ok name) =>
        match kinds.lookup name with
        | some kind => .ok kind
        | none => .error (.unknownKind name)
      | .number (.ok (.int i)) =>
        if i < 0 then .error .invalidType
        else match kinds[i.toNat]? with
          | some (_, kind) => .ok kind
          | none => .error .invalidValue
      | node => .error node.unexpected
    let (kind, others) ← takeTag tag choose none kept
    (kind others).map make
  | _, node => .error node.unexpected

end Reader

end ProgramImage
