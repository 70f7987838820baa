import ProgramImage.Load.Config
import ProgramImage.Load.Resolve
import ProgramImage.Load.Traced
import ProgramImage.Sources

/-!
# The phases of a load

Each phase takes the lists of a document that belong to it, and what earlier phases
made of theirs.
-/

namespace ProgramImage

namespace Load

open Traced

/-- Keeps the source texts. -/
def sources (config : LoadConfig) (records : List SourceRecord) : Traced Sources := do
  emit (.phase .sources records.length)
  if config.keepSources then
    return records.foldl (fun sources record => sources.insert record.file record.contents) .empty
  else return .empty

/-- Makes the global buffer, and an empty heap that has the buffer as its roots. -/
def memory (config : LoadConfig) (size : Nat) (maskText : String) : Traced Memory := do
  emit (.phase .globalBuffer size)
  if size > config.maxGlobalBytes then
    fail (.globalBufferTooLarge size config.maxGlobalBytes)
  let mask ← lift id (parseMask maskText "cmask")
  lift id (checkCoverage config.verifyMasks "cmask" mask (.atMost size))
  let heap ← lift .heap ((Heap.empty config.maxHeapBytes).registerRoots size mask)
  return ⟨.zeros size mask, heap⟩

/-- Numbers the names of types. -/
def internTypes (names : NameRegistry) (list : List String) : Traced NameRegistry :=
  list.foldlM (fun names name => do
    let (result, names) := names.internType name
    let _ ← lift .names result
    return names) names

/-- Numbers the names of another namespace. -/
def pushNames (space : Namespace) (names : NameRegistry) (list : List String) :
    Traced NameRegistry :=
  list.foldlM (fun names name => do
    let isRepeated := (names.lookup space name).isSome
    let (index, names) := names.push space name
    if isRepeated then emit (.repeatedName space name index.value)
    return names) names

/-- Stores declarations in a table. -/
def fill {ρ α : Type} [Declared α] (make : SlotTable α → ρ → Traced α) (table : SlotTable α)
    (records : List ρ) : Traced (SlotTable α) :=
  records.foldlM (fun table record => do
    let item ← make table record
    lift .table (table.insert item)) table

/-- Numbers all names, and declares the fields. -/
def names (doc : Document) : Traced (NameRegistry × FieldTable) := do
  emit (.phase .names doc.typeNames.length)
  let names ← internTypes .initial doc.typeNames
  let names ← pushNames .property names doc.propertyNames
  let names ← pushNames .field names doc.fieldNames
  let fields ← fill (fun _ record => lift id (field names record))
    (.empty (names.count .field)) doc.fields
  let names ← pushNames .invoke names doc.invokeNames
  let names ← pushNames .virtualInvoke names doc.virtualInvokeNames
  return (names, fields)

/-- Declares the types. -/
def types (config : LoadConfig) (names : NameRegistry) (records : List TypeRecord) :
    Traced TypeTable := do
  emit (.phase .types records.length)
  fill (fun _ record => do
    let desc ← lift id (typeDescriptor names config.verifyMasks record)
    emit (.declaredType desc.tid desc.name desc.kind.name)
    return desc)
    (TypeTable.reserved (names.count .type)) records

/-- Declares the structs behind pointers. -/
def boxedTypes (names : NameRegistry) (types : TypeTable) (records : List BoxedRecord) :
    Traced TypeTable := do
  emit (.phase .boxedTypes records.length)
  fill (fun types record => lift id (boxedType names types record)) types records

/-- Registers the representations of list types. -/
def listFlavors (names : NameRegistry) (types : TypeTable) (flavors : Flavors)
    (records : List ListFlavorRecord) : Traced Flavors := do
  emit (.phase .listFlavors records.length)
  records.foldlM (fun flavors record => do
    let flavor ← lift id (listFlavor names types record)
    let flavors ← lift .flavor (flavors.registerList flavor)
    emit (.listFlavor flavor)
    return flavors) flavors

/-- Registers the representations of map types. -/
def mapFlavors (names : NameRegistry) (types : TypeTable) (flavors : Flavors)
    (records : List MapFlavorRecord) : Traced Flavors := do
  emit (.phase .mapFlavors records.length)
  records.foldlM (fun flavors record => do
    let flavor ← lift id (mapFlavor names types record)
    let flavors ← lift .flavor (flavors.registerMap flavor)
    emit (.mapFlavor flavor)
    return flavors) flavors

/-- Declares the callables. -/
def invokes (config : LoadConfig) (names : NameRegistry) (records : List InvokeRecord) :
    Traced InvokeTable := do
  emit (.phase .invokes records.length)
  fill (fun _ record => lift id (invoke names config.verifyMasks record))
    (.empty (names.count .invoke)) records

/-- Compiles the regular expressions of literals. -/
def regexes (patterns : PatternLanguage) (records : List RegexRecord) : Traced RegexTable := do
  emit (.phase .regexes records.length)
  records.foldlM (fun table record => do
    if (table.lookup record.text).isSome then emit (.repeatedRegex record.text)
    let (id, later) ← lift .regex (table.insert patterns record.text record.pattern)
    if table.size < later.size then emit (.addedRegex record.text id)
    return later) RegexTable.empty

/-- Stores the literals. -/
def literals (names : NameRegistry) (types : TypeTable) (regexes : RegexTable)
    (memory : Memory) (records : List LiteralRecord) : Traced Memory := do
  emit (.phase .literals records.length)
  records.foldlM (fun memory record => do
    let tid ← lift id (resolveType names record.type "litdecls")
    let count := memory.heap.count
    let (result, memory) :=
      Literal.place types regexes memory record.offset.toNat tid record.text
    emitAll (LoadEvent.allocationsSince count memory.heap)
    let _ ← lift (.literal record.offset.toNat record.type) result
    return memory) memory

/-- Compiles the regular expressions of types. -/
def validators (patterns : PatternLanguage) (names : NameRegistry) (regexes : RegexTable)
    (records : List ValidatorRecord) : Traced RegexTable := do
  emit (.phase .validators records.length)
  records.foldlM (fun table record => do
    let tid ← lift id (resolveType names record.type "validators")
    if (table.validatorId? tid).isSome then emit (.repeatedValidator tid)
    let (_, later) ←
      lift .regex (table.addValidator patterns tid record.regex.text record.regex.pattern)
    return later) regexes

end Load

end ProgramImage
