import ProgramImage.Load.Basic
import ProgramImage.Proofs.Outcome

/-!
# Runs of a load

A load that succeeds has gone through all of its phases, each with what the earlier
ones made. `Load.Run` keeps the result of every phase, so that a statement about a
loaded program can look at one phase and leave the others aside. Constants that run no
code leave the program as the other phases made it.

## Main definitions

* `Load.Run` is a successful load without its constants, phase by phase.
* `Initializer.KeepsMemory` says that computing a constant writes nothing.
* `Load.RunsNoCode` says that a load has no constants, or only takes them down.

## Main statements

* `Load.static_eq_ok_iff` is the success of the phases before the constants.
* `Load.constant_eq_ok` says what a constant that is computed does, and
  `Load.constants_invariant` carries an invariant through a list of them.
* `Load.run_of_load` finds those phases behind every load, and `Load.static_of_load` behind a
  load that runs no code.
-/

namespace ProgramImage

/-- Computing a constant leaves the memory as it is. -/
def Initializer.KeepsMemory {σ : Type} (initializer : Initializer σ) : Prop :=
  ∀ request state memory, (initializer.run request state memory).2.2 = memory

theorem Initializer.keepsMemory_deferring : Initializer.deferring.KeepsMemory :=
  fun _ _ _ => rfl

theorem Initializer.keepsMemory_absent : Initializer.absent.KeepsMemory :=
  fun _ _ _ => rfl

namespace Load

/-- A document has no constants, or they are computed without writing anything. -/
def RunsNoCode {σ : Type} (initializer : Initializer σ) (doc : Document) : Prop :=
  doc.constants = [] ∨ initializer.KeepsMemory

/-- The phases of a load that succeeds, up to its constants. -/
structure Run (patterns : PatternLanguage) (config : LoadConfig) (doc : Document)
    (program : Program) where
  /-- The memory before the literals. -/
  memory : Memory
  /-- The types before those of structs behind pointers. -/
  declared : TypeTable
  /-- The flavors before those of maps. -/
  lists : Flavors
  /-- The regular expressions before those of types. -/
  regexes : RegexTable
  sources_ok : (sources config doc.sources).outcome = .ok program.sources
  memory_ok : (Load.memory config doc.globalSize.toNat doc.globalMask).outcome = .ok memory
  names_ok : (names doc).outcome = .ok (program.names, program.fields)
  types_ok : (types config program.names doc.types).outcome = .ok declared
  boxedTypes_ok :
    (boxedTypes program.names declared doc.boxedTypes).outcome = .ok program.types
  listFlavors_ok :
    (listFlavors program.names program.types .empty doc.listFlavors).outcome = .ok lists
  mapFlavors_ok :
    (mapFlavors program.names program.types lists doc.mapFlavors).outcome = .ok program.flavors
  invokes_ok : (invokes config program.names doc.invokes).outcome = .ok program.invokes
  regexes_ok : (Load.regexes patterns doc.regexes).outcome = .ok regexes
  literals_ok :
    (literals program.names program.types regexes memory doc.literals).outcome =
      .ok program.memory
  validators_ok : (validators patterns program.names regexes doc.validators).outcome =
    .ok program.regexes

variable {σ : Type} {patterns : PatternLanguage} {config : LoadConfig} {initializer : Initializer σ}
  {state : σ} {doc : Document} {program later : Program}

/-- The phases before the constants succeed when there is a result for each of them. -/
theorem static_eq_ok_iff :
    (static patterns config doc).outcome = .ok program ↔
      Nonempty (Run patterns config doc program) := by
  unfold static
  simp only [Traced.outcome_bind]
  constructor
  · intro h
    obtain ⟨sources, hsources, h⟩ := Except.bind_eq_ok.mp h
    obtain ⟨memory, hmemory, h⟩ := Except.bind_eq_ok.mp h
    obtain ⟨⟨names, fields⟩, hnames, h⟩ := Except.bind_eq_ok.mp h
    obtain ⟨declared, htypes, h⟩ := Except.bind_eq_ok.mp h
    obtain ⟨types, hboxed, h⟩ := Except.bind_eq_ok.mp h
    obtain ⟨lists, hlists, h⟩ := Except.bind_eq_ok.mp h
    obtain ⟨flavors, hmaps, h⟩ := Except.bind_eq_ok.mp h
    obtain ⟨invokes, hinvokes, h⟩ := Except.bind_eq_ok.mp h
    obtain ⟨regexes, hregexes, h⟩ := Except.bind_eq_ok.mp h
    obtain ⟨filled, hliterals, h⟩ := Except.bind_eq_ok.mp h
    obtain ⟨all, hvalidators, h⟩ := Except.bind_eq_ok.mp h
    cases h
    exact ⟨⟨memory, declared, lists, regexes, hsources, hmemory, hnames, htypes, hboxed, hlists,
      hmaps, hinvokes, hregexes, hliterals, hvalidators⟩⟩
  · rintro ⟨run⟩
    refine Except.bind_eq_ok.mpr ⟨_, run.sources_ok, ?_⟩
    refine Except.bind_eq_ok.mpr ⟨_, run.memory_ok, ?_⟩
    refine Except.bind_eq_ok.mpr ⟨_, run.names_ok, ?_⟩
    refine Except.bind_eq_ok.mpr ⟨_, run.types_ok, ?_⟩
    refine Except.bind_eq_ok.mpr ⟨_, run.boxedTypes_ok, ?_⟩
    refine Except.bind_eq_ok.mpr ⟨_, run.listFlavors_ok, ?_⟩
    refine Except.bind_eq_ok.mpr ⟨_, run.mapFlavors_ok, ?_⟩
    refine Except.bind_eq_ok.mpr ⟨_, run.invokes_ok, ?_⟩
    refine Except.bind_eq_ok.mpr ⟨_, run.regexes_ok, ?_⟩
    refine Except.bind_eq_ok.mpr ⟨_, run.literals_ok, ?_⟩
    exact Except.bind_eq_ok.mpr ⟨_, run.validators_ok, rfl⟩

/-- A load succeeds by way of a program without constants, whose constants it computes. -/
theorem load_eq_ok_iff :
    (load patterns config initializer state doc).outcome = .ok program ↔
      ∃ first, (static patterns config doc).outcome = .ok first ∧
        (constants initializer first state doc.constants).outcome = .ok program := by
  unfold load
  dsimp only
  cases hstatic : (static patterns config doc).outcome with
  | error e => simp
  | ok first =>
    dsimp only
    cases hconstants : (constants initializer first state doc.constants).outcome with
    | error e => simp [hconstants]
    | ok last => simp [hconstants]

/-- A load goes on with the constants when the other phases succeed. -/
theorem load_outcome (patterns : PatternLanguage) (config : LoadConfig)
    (initializer : Initializer σ) (state : σ) (doc : Document) :
    (load patterns config initializer state doc).outcome = (static patterns config doc).outcome >>=
      fun first =>
      (constants initializer first state doc.constants).outcome := by
  unfold load
  dsimp only
  cases (static patterns config doc).outcome with
  | error e => rfl
  | ok first =>
    show _ = (constants initializer first state doc.constants).outcome
    dsimp only
    cases (constants initializer first state doc.constants).outcome <;> rfl

/-- A load leaves the state that its constants leave. -/
theorem load_state {first : Program} (run : Run patterns config doc first) :
    (load patterns config initializer state doc).state =
      (constants initializer first state doc.constants).state := by
  have hstatic := static_eq_ok_iff.mpr ⟨run⟩
  unfold load
  dsimp only
  rw [hstatic]
  dsimp only
  cases (constants initializer first state doc.constants).outcome <;> rfl

/-- A load that fails before its constants leaves the state as it is. -/
theorem load_state_of_error {error : LoadError}
    (h : (static patterns config doc).outcome = .error error) :
    (load patterns config initializer state doc).state = state := by
  unfold load
  dsimp only
  rw [h]

/-- Two loads whose phases before the constants have one outcome have one outcome, and leave
    one state. -/
theorem load_congr_static {other : LoadConfig} (initializer : Initializer σ) (state : σ)
    (h : (static patterns config doc).outcome = (static patterns other doc).outcome) :
    (load patterns config initializer state doc).outcome =
      (load patterns other initializer state doc).outcome ∧
      (load patterns config initializer state doc).state =
        (load patterns other initializer state doc).state := by
  refine ⟨by rw [load_outcome, load_outcome, h], ?_⟩
  cases hfirst : (static patterns config doc).outcome with
  | error error =>
    rw [load_state_of_error hfirst, load_state_of_error (h ▸ hfirst)]
  | ok first =>
    obtain ⟨run⟩ := static_eq_ok_iff.mp hfirst
    obtain ⟨otherRun⟩ := static_eq_ok_iff.mp (h ▸ hfirst)
    rw [load_state run, load_state otherRun]

/-- A constant is computed when its names are resolved, its request passes the checks and the
    initializer succeeds with it. Nothing but the memory of the program changes. -/
theorem constant_eq_ok {record : ConstantRecord}
    (h : (constant initializer program state record).outcome = .ok later) :
    ∃ id tid request, resolve program.names .invoke record.invoke "constdecls" = .ok id ∧
      resolveType program.names record.type "constdecls" = .ok tid ∧
      Constant.request program.invokes program.types record.offset.toNat id tid = .ok request ∧
      Constant.checkSlot program.memory request = .ok () ∧
      (initializer.run request state program.memory).1 = .ok () ∧
      (constant initializer program state record).state =
        (initializer.run request state program.memory).2.1 ∧
      later = { program with memory := (initializer.run request state program.memory).2.2 } := by
  unfold constant at h ⊢
  dsimp only at h ⊢
  split at h
  · cases h
  · next request tid hresolved =>
    split at h
    · cases h
    · next hslot =>
      obtain ⟨id, hid, hresolved⟩ := Except.bind_eq_ok.mp hresolved
      obtain ⟨found, htid, hresolved⟩ := Except.bind_eq_ok.mp hresolved
      split at hresolved
      · next requested hrequest =>
        cases hresolved
        refine ⟨id, tid, request, hid, htid, hrequest, hslot, ?_⟩
        unfold Constant.run at h ⊢
        cases hrun : initializer.run request state program.memory with
        | mk result rest =>
          rw [hrun] at h
          cases result with
          | error trap => cases h
          | ok _ =>
            cases h
            exact ⟨rfl, rfl, rfl⟩
      · cases hresolved

/-- What every constant keeps of a program and of the state of the initializer, a list of
    constants keeps. -/
theorem constants_invariant {P : Program → σ → Prop}
    (hstep : ∀ program state record later, P program state →
      (constant initializer program state record).outcome = .ok later →
      P later (constant initializer program state record).state)
    {records : List ConstantRecord} (hprogram : P program state)
    (h : (constants initializer program state records).outcome = .ok later) :
    P later (constants initializer program state records).state := by
  induction records generalizing program state with
  | nil =>
    cases h
    exact hprogram
  | cons record records ih =>
    unfold constants at h ⊢
    dsimp only at h ⊢
    split at h
    · cases h
    · next mid hmid =>
      exact ih (hstep program state record mid hprogram hmid) h

/-- Constants change nothing but the memory of a program. -/
theorem constants_keep_rest {records : List ConstantRecord}
    (h : (constants initializer program state records).outcome = .ok later) :
    later = { program with memory := later.memory } := by
  refine constants_invariant (P := fun mid _ => mid = { program with memory := mid.memory })
    ?_ rfl h
  intro mid state record next hmid hnext
  obtain ⟨-, -, request, -, -, -, -, -, -, rfl⟩ := constant_eq_ok hnext
  rw [hmid]

/-- Behind a loaded program there is a run of the phases before its constants, which change
    nothing but the memory. -/
theorem run_of_load (h : (load patterns config initializer state doc).outcome = .ok program) :
    ∃ first, Nonempty (Run patterns config doc first) ∧
      program = { first with memory := program.memory } ∧
      (constants initializer first state doc.constants).outcome = .ok program := by
  obtain ⟨first, hstatic, hconstants⟩ := load_eq_ok_iff.mp h
  exact ⟨first, static_eq_ok_iff.mp hstatic, constants_keep_rest hconstants, hconstants⟩

/-- What every computation keeps of a memory, the constants of a load keep. -/
theorem constants_keep_memory {P : Memory → Prop}
    (hrun : ∀ request state memory, P memory → P (initializer.run request state memory).2.2)
    {records : List ConstantRecord} (hprogram : P program.memory)
    (h : (constants initializer program state records).outcome = .ok later) : P later.memory := by
  refine constants_invariant (P := fun mid _ => P mid.memory) ?_ hprogram h
  intro mid state record next hmid hnext
  obtain ⟨-, -, request, -, -, -, -, -, -, rfl⟩ := constant_eq_ok hnext
  exact hrun request state mid.memory hmid

/-- Constants that are computed without writing leave the program as it is. -/
theorem constants_keep (hkeeps : initializer.KeepsMemory) {records : List ConstantRecord}
    (h : (constants initializer program state records).outcome = .ok later) :
    later = program := by
  have hmemory : later.memory = program.memory := by
    refine constants_keep_memory (P := fun memory => memory = program.memory) ?_ rfl h
    intro request state memory hmemory
    rw [hkeeps, hmemory]
  rw [constants_keep_rest h, hmemory]

/-- A load that runs no code ends with the program of its other phases. -/
theorem static_of_load (h : (load patterns config initializer state doc).outcome = .ok program)
    (hcode : RunsNoCode initializer doc) : (static patterns config doc).outcome = .ok program := by
  obtain ⟨first, hstatic, hconstants⟩ := load_eq_ok_iff.mp h
  rw [hstatic]
  rcases hcode with hnone | hkeeps
  · rw [hnone] at hconstants
    exact hconstants
  · rw [constants_keep hkeeps hconstants]

/-- A document without constants is loaded by the other phases. -/
theorem load_of_static (h : (static patterns config doc).outcome = .ok program)
    (hnone : doc.constants = []) :
    (load patterns config initializer state doc).outcome = .ok program := by
  refine load_eq_ok_iff.mpr ⟨program, h, ?_⟩
  rw [hnone]
  rfl

end Load

end ProgramImage
