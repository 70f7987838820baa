import ProgramImage.Load.Phases
import ProgramImage.Program

/-!
# Loading a document

`Load.static` runs the phases up to the validators, which depend on the document, the
settings and the language of its patterns alone. `Load.load` goes on with the constants, which
an initializer
computes. The state of the initializer is part of the report also when the load fails.
-/

namespace ProgramImage

namespace Load

open Traced

/-- The program of a document without its constants. -/
def static (patterns : PatternLanguage) (config : LoadConfig) (doc : Document) :
    Traced Program := do
  let sources ← sources config doc.sources
  let memory ← memory config doc.globalSize.toNat doc.globalMask
  let (names, fields) ← names doc
  let types ← types config names doc.types
  let types ← boxedTypes names types doc.boxedTypes
  let flavors ← listFlavors names types .empty doc.listFlavors
  let flavors ← mapFlavors names types flavors doc.mapFlavors
  let invokes ← invokes config names doc.invokes
  let regexes ← regexes patterns doc.regexes
  let memory ← literals names types regexes memory doc.literals
  let regexes ← validators patterns names regexes doc.validators
  return { names, sources, memory, types, fields, flavors, invokes, regexes }

/-- What a load gives: its events, the state of the initializer, and a value or the
    error at which it stopped. -/
structure Report (σ α : Type) where
  events : List LoadEvent
  state : σ
  outcome : Except LoadError α

/-- Computes one constant of a program. -/
def constant {σ : Type} (initializer : Initializer σ) (program : Program) (state : σ)
    (record : ConstantRecord) : Report σ Program :=
  let offset := record.offset.toNat
  let resolved : Except LoadError (ConstantRequest × TypeId) := do
    let id ← resolve program.names .invoke record.invoke "constdecls"
    let tid ← resolveType program.names record.type "constdecls"
    match Constant.request program.invokes program.types offset id tid with
    | .ok request => return (request, tid)
    | .error error => throw (.constant offset error)
  match resolved with
  | .error error => ⟨[], state, .error error⟩
  | .ok (request, tid) =>
    let warnings :=
      if request.invoke.result = tid then [] else [LoadEvent.otherResult request.invoke tid]
    match Constant.checkSlot program.memory request with
    | .error error => ⟨warnings, state, .error (.constant offset error)⟩
    | .ok () =>
      let count := program.memory.heap.count
      let (result, state, memory) := Constant.run initializer request state program.memory
      let events := warnings ++ .evaluating offset request.invoke tid ::
        LoadEvent.allocationsSince count memory.heap
      match result with
      | .ok () => ⟨events, state, .ok { program with memory }⟩
      | .error error => ⟨events, state, .error (.constant offset error)⟩

/-- Computes the constants of a program, one after the other. -/
def constants {σ : Type} (initializer : Initializer σ) (program : Program) (state : σ) :
    List ConstantRecord → Report σ Program
  | [] => ⟨[], state, .ok program⟩
  | record :: rest =>
    let first := constant initializer program state record
    match first.outcome with
    | .error error => ⟨first.events, first.state, .error error⟩
    | .ok program =>
      let others := constants initializer program first.state rest
      ⟨first.events ++ others.events, others.state, others.outcome⟩

/-- The events at the end of a load: types that have a name only, and the counts. -/
def closingEvents (program : Program) : List LoadEvent :=
  (program.types.undeclared.map fun tid =>
    .undeclaredType tid ((program.names.resolve tid).getD "?")) ++
  [.loaded program.types.populated program.memory.heap.count]

/-- Loads a document. -/
def load {σ : Type} (patterns : PatternLanguage) (config : LoadConfig)
    (initializer : Initializer σ) (state : σ) (doc : Document) : Report σ Program :=
  let first := static patterns config doc
  match first.outcome with
  | .error error => ⟨first.events, state, .error error⟩
  | .ok program =>
    let others := constants initializer program state doc.constants
    let events := first.events ++ .phase .constants doc.constants.length :: others.events
    match others.outcome with
    | .error error => ⟨events, others.state, .error error⟩
    | .ok program => ⟨events ++ closingEvents program, others.state, .ok program⟩

end Load

end ProgramImage
