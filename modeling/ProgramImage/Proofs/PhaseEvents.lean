import ProgramImage.Proofs.PhaseSteps

/-!
# The phase that a load stops in

Every phase starts with an event of its own, and no other event of a load starts a phase. So the
last of these events tells where a load that fails has stopped. What is written in the document
for later phases has no part in it: another document that is the same up to that phase stops with
the same error, after the same events.

## Main definitions

* `enteredPhases` are the phases that a list of events starts.
* `Traced.Quiet` and `Traced.Enters` say that a computation starts no phase, or one.

## Main statements

* `Load.step_enters` is the event of each phase.
* `Load.run_stops` is a run of phases that fails, and `Load.load_stops` a load.
-/

namespace ProgramImage

/-- The phase that an event starts. -/
def LoadEvent.phase? : LoadEvent → Option LoadPhase
  | .phase stage _ => some stage
  | _ => none

/-- The phases that were started, in their order. -/
def enteredPhases (events : List LoadEvent) : List LoadPhase :=
  events.filterMap LoadEvent.phase?

/-- The phase that a load came to. -/
def Load.Report.lastPhase? {σ α : Type} (report : Report σ α) : Option LoadPhase :=
  (enteredPhases report.events).getLast?

@[simp] theorem enteredPhases_append (events later : List LoadEvent) :
    enteredPhases (events ++ later) = enteredPhases events ++ enteredPhases later :=
  List.filterMap_append

theorem enteredPhases_allocationsSince (count : Nat) (heap : Heap) :
    enteredPhases (LoadEvent.allocationsSince count heap) = [] := by
  simp [enteredPhases, LoadEvent.allocationsSince, LoadEvent.phase?]

/-! ### Computations that start no phase -/

namespace Traced

variable {ε α β σ : Type} {stage : LoadPhase}

/-- A computation starts no phase. -/
def Quiet (x : Traced α) : Prop :=
  enteredPhases x.events = []

/-- A computation starts one phase. -/
def Enters (stage : LoadPhase) (x : Traced α) : Prop :=
  enteredPhases x.events = [stage]

theorem Quiet.pure (a : α) : Quiet (pure a) :=
  rfl

theorem Quiet.lift (wrap : ε → LoadError) (x : Except ε α) : Quiet (lift wrap x) := by
  cases x <;> rfl

theorem Quiet.emit {event : LoadEvent} (h : event.phase? = none) : Quiet (emit event) := by
  simp [Quiet, Traced.emit, enteredPhases, h]

theorem Quiet.bind {x : Traced α} {f : α → Traced β} (hx : Quiet x) (hf : ∀ a, Quiet (f a)) :
    Quiet (x >>= f) := by
  unfold Quiet at hx hf ⊢
  cases h : x.outcome with
  | error error => rw [bind_of_error h, hx]
  | ok a => rw [bind_of_ok h, enteredPhases_append, hx, hf, List.append_nil]

/-- An event on the way, whether or not it happens, starts no phase. -/
theorem Quiet.optional {c : Prop} [Decidable c] {event : LoadEvent} {next : Unit → Traced β}
    (h : event.phase? = none) (hnext : Quiet (next ())) :
    Quiet (if c then Traced.emit event >>= next else next ()) := by
  split
  · exact (Quiet.emit h).bind fun _ => hnext
  · exact hnext

theorem Quiet.foldlM {f : σ → α → Traced σ} (hf : ∀ s x, Quiet (f s x)) (s : σ) (xs : List α) :
    Quiet (xs.foldlM f s) := by
  induction xs generalizing s with
  | nil => exact .pure s
  | cons x xs ih => exact .bind (hf s x) fun mid => ih mid

theorem Enters.bind {x : Traced α} {f : α → Traced β} (hx : Enters stage x)
    (hf : ∀ a, Quiet (f a)) : Enters stage (x >>= f) := by
  unfold Enters at hx ⊢
  cases h : x.outcome with
  | error error => rw [bind_of_error h, hx]
  | ok a => rw [bind_of_ok h, enteredPhases_append, hx, hf, List.append_nil]

theorem Enters.of_emit {count : Nat} {f : Unit → Traced β} (hf : Quiet (f ())) :
    Enters stage (emit (.phase stage count) >>= f) :=
  .bind rfl fun _ => hf

end Traced

namespace Load

open Traced

variable {σ : Type} {patterns : PatternLanguage} {config : LoadConfig} {initializer : Initializer σ}
  {state : σ} {doc : Document} {program : Program} {registry : NameRegistry} {types : TypeTable}

/-! ### The event of each phase -/

theorem fill_quiet {ρ α : Type} [Declared α] {make : SlotTable α → ρ → Traced α}
    (hmake : ∀ table record, Quiet (make table record)) (table : SlotTable α) (records : List ρ) :
    Quiet (fill make table records) :=
  .foldlM (fun table record => (hmake table record).bind fun _ => .lift _ _) _ _

theorem pushNames_quiet (space : Namespace) (names : NameRegistry) (list : List String) :
    Quiet (pushNames space names list) := by
  refine .foldlM (fun names name => ?_) _ _
  exact .optional rfl (.pure _)

theorem sources_enters (records : List SourceRecord) : Enters .sources (sources config records) :=
  .of_emit (by split <;> exact .pure _)

theorem memory_enters (size : Nat) (maskText : String) :
    Enters .globalBuffer (memory config size maskText) := by
  refine .of_emit ?_
  split
  · rfl
  · exact (Quiet.lift _ _).bind fun mask => (Quiet.lift _ _).bind fun _ =>
      (Quiet.lift _ _).bind fun heap => .pure _

theorem names_enters : Enters .names (names doc) := by
  refine .of_emit ?_
  have htypes : Quiet (internTypes .initial doc.typeNames) :=
    .foldlM (fun names name => (Quiet.lift _ _).bind fun _ => .pure _) _ _
  refine htypes.bind fun names => (pushNames_quiet _ _ _).bind fun names => ?_
  refine (pushNames_quiet _ _ _).bind fun names => ?_
  refine (fill_quiet (fun _ _ => .lift _ _) _ _).bind fun fields => ?_
  exact (pushNames_quiet _ _ _).bind fun names => (pushNames_quiet _ _ _).bind fun names => .pure _

theorem types_enters (records : List TypeRecord) :
    Enters .types (Load.types config registry records) := by
  refine .of_emit (fill_quiet (fun _ record => ?_) _ _)
  exact (Quiet.lift _ _).bind fun desc => (Quiet.emit rfl).bind fun _ => .pure _

theorem boxedTypes_enters (records : List BoxedRecord) :
    Enters .boxedTypes (boxedTypes registry types records) :=
  .of_emit (fill_quiet (fun _ _ => .lift _ _) _ _)

theorem listFlavors_enters (flavors : Flavors) (records : List ListFlavorRecord) :
    Enters .listFlavors (listFlavors registry types flavors records) := by
  refine .of_emit (.foldlM (fun flavors record => ?_) _ _)
  exact (Quiet.lift _ _).bind fun flavor => (Quiet.lift _ _).bind fun flavors =>
    (Quiet.emit rfl).bind fun _ => .pure _

theorem mapFlavors_enters (flavors : Flavors) (records : List MapFlavorRecord) :
    Enters .mapFlavors (mapFlavors registry types flavors records) := by
  refine .of_emit (.foldlM (fun flavors record => ?_) _ _)
  exact (Quiet.lift _ _).bind fun flavor => (Quiet.lift _ _).bind fun flavors =>
    (Quiet.emit rfl).bind fun _ => .pure _

theorem invokes_enters (records : List InvokeRecord) :
    Enters .invokes (invokes config registry records) :=
  .of_emit (fill_quiet (fun _ _ => .lift _ _) _ _)

theorem regexes_enters (records : List RegexRecord) :
    Enters .regexes (regexes patterns records) := by
  refine .of_emit (.foldlM (fun table record => .optional rfl ?_) _ _)
  exact (Quiet.lift _ _).bind fun added => .optional rfl (.pure _)

theorem literals_enters (regexes : RegexTable) (memory : Memory) (records : List LiteralRecord) :
    Enters .literals (literals registry types regexes memory records) := by
  refine .of_emit (.foldlM (fun memory record => (Quiet.lift _ _).bind fun tid => ?_) _ _)
  have hallocated : ∀ later : Memory,
      Quiet (emitAll (LoadEvent.allocationsSince memory.heap.count later.heap)) :=
    fun later => enteredPhases_allocationsSince _ _
  exact (hallocated _).bind fun _ => (Quiet.lift _ _).bind fun _ => .pure _

theorem validators_enters (table : RegexTable) (records : List ValidatorRecord) :
    Enters .validators (validators patterns registry table records) := by
  refine .of_emit (.foldlM (fun table record => (Quiet.lift _ _).bind fun tid => ?_) _ _)
  exact .optional rfl ((Quiet.lift _ _).bind fun added => .pure _)

/-- A phase starts with its event, and starts no other phase. -/
theorem step_enters {stage : LoadPhase} (h : stage ≠ .constants) :
    Enters stage (step patterns config doc program stage) := by
  cases stage with
  | sources => exact (sources_enters _).bind fun _ => .pure _
  | globalBuffer => exact (memory_enters _ _).bind fun _ => .pure _
  | names => exact names_enters.bind fun _ => .pure _
  | types => exact (types_enters _).bind fun _ => .pure _
  | boxedTypes => exact (boxedTypes_enters _).bind fun _ => .pure _
  | listFlavors => exact (listFlavors_enters _ _).bind fun _ => .pure _
  | mapFlavors => exact (mapFlavors_enters _ _).bind fun _ => .pure _
  | invokes => exact (invokes_enters _).bind fun _ => .pure _
  | regexes => exact (regexes_enters _).bind fun _ => .pure _
  | literals => exact (literals_enters _ _ _).bind fun _ => .pure _
  | validators => exact (validators_enters _ _).bind fun _ => .pure _
  | constants => exact absurd rfl h

/-! ### The event of the constants -/

theorem constant_quiet (record : ConstantRecord) :
    enteredPhases (constant initializer program state record).events = [] := by
  have hwarning : ∀ request : ConstantRequest, ∀ tid : TypeId,
      enteredPhases (if request.invoke.result = tid then []
        else [LoadEvent.otherResult request.invoke tid]) = [] := by
    intro request tid
    split <;> rfl
  unfold constant
  dsimp only
  split
  · rfl
  · split
    · exact hwarning _ _
    · split <;>
        simp only [enteredPhases_append, hwarning, List.nil_append] <;>
        exact enteredPhases_allocationsSince _ _

theorem constants_quiet (records : List ConstantRecord) :
    enteredPhases (constants initializer program state records).events = [] := by
  induction records generalizing program state with
  | nil => rfl
  | cons record records ih =>
    unfold constants
    dsimp only
    split
    · exact constant_quiet record
    · rw [enteredPhases_append, constant_quiet, ih]
      rfl

/-! ### Loads that fail -/

/-- A run of phases that fails has stopped in one of them, and has looked at no fields but those
    of the phases up to this one. -/
theorem run_stops {stages : List LoadPhase} {error : LoadError}
    (hstages : ∀ stage ∈ stages, stage ≠ .constants)
    (h : (stages.foldlM (step patterns config doc) program).outcome = .error error) :
    ∃ before stage after, stages = before ++ stage :: after ∧
      enteredPhases (stages.foldlM (step patterns config doc) program).events = before ++ [stage] ∧
      ∀ other, (∀ earlier ∈ before ++ [stage], doc.AgreesOn other earlier) →
        stages.foldlM (step patterns config other) program =
          stages.foldlM (step patterns config doc) program := by
  induction stages generalizing program with
  | nil => cases h
  | cons first rest ih =>
    have henters : Enters first (step patterns config doc program first) :=
      step_enters (hstages first List.mem_cons_self)
    simp only [List.foldlM_cons] at h ⊢
    cases hfirst : (step patterns config doc program first).outcome with
    | error found =>
      -- nothing behind the first phase was run, in either document
      refine ⟨[], first, rest, rfl, ?_, ?_⟩
      · rw [Traced.bind_of_error hfirst]
        exact henters
      · intro other hagrees
        rw [step_congr (hagrees first (by simp)), Traced.bind_of_error hfirst,
          Traced.bind_of_error hfirst]
    | ok mid =>
      rw [Traced.outcome_bind, hfirst] at h
      obtain ⟨before, stage, after, rfl, hentered, hsame⟩ :=
        ih (fun stage hstage => hstages stage (List.mem_cons_of_mem _ hstage)) h
      refine ⟨first :: before, stage, after, rfl, ?_, ?_⟩
      · rw [Traced.bind_of_ok hfirst, enteredPhases_append, hentered, henters]
        rfl
      · intro other hagrees
        obtain ⟨hagreesFirst, hagreesRest⟩ := List.forall_mem_cons.mp hagrees
        rw [step_congr hagreesFirst, Traced.bind_of_ok hfirst, Traced.bind_of_ok hfirst,
          hsame other hagreesRest]

/-- A load that fails has come to a phase, and gives the same for every document that is the same
    up to this phase. -/
theorem load_stops {error : LoadError}
    (h : (load patterns config initializer state doc).outcome = .error error) :
    ∃ stage, (load patterns config initializer state doc).lastPhase? = some stage ∧
      ∀ other, doc.AgreesUpTo other stage →
        load patterns config initializer state other =
          load patterns config initializer state doc := by
  cases hstatic : (static patterns config doc).outcome with
  | error found =>
    rw [static_eq_foldlM] at hstatic
    obtain ⟨before, stage, after, hstages, hentered, hsame⟩ := run_stops (by decide) hstatic
    rw [← static_eq_foldlM] at hstatic hentered
    -- the phases are run in their order, so those before the last one are below it
    have hsorted : LoadPhase.beforeConstants.Pairwise (· ≤ ·) := by decide
    rw [hstages, List.pairwise_append] at hsorted
    have hbelow : ∀ earlier ∈ before ++ [stage], earlier ≤ stage := by
      intro earlier hearlier
      rcases List.mem_append.mp hearlier with hbefore | hlast
      · exact hsorted.2.2 earlier hbefore stage List.mem_cons_self
      · rw [List.mem_singleton.mp hlast]
        exact Nat.le_refl _
    refine ⟨stage, ?_, ?_⟩
    · unfold load Report.lastPhase?
      simp only [hstatic, hentered, List.getLast?_concat]
    · intro other hagrees
      have hother : static patterns config other = static patterns config doc := by
        rw [static_eq_foldlM, static_eq_foldlM]
        exact hsame other fun earlier hearlier => hagrees earlier (hbelow earlier hearlier)
      unfold load
      simp only [hother, hstatic]
  | ok first =>
    refine ⟨.constants, ?_, ?_⟩
    · have hconstants : (constants initializer first state doc.constants).outcome =
          .error error := by
        rwa [load_outcome, hstatic] at h
      have hlast : enteredPhases (.phase .constants doc.constants.length ::
          (constants initializer first state doc.constants).events) = [.constants] :=
        congrArg (LoadPhase.constants :: ·) (constants_quiet doc.constants)
      unfold load Report.lastPhase?
      simp only [hstatic, hconstants, enteredPhases_append, hlast, List.getLast?_concat]
    · intro other hagrees
      rw [Document.eq_of_agreesUpTo_constants hagrees]

end Load

end ProgramImage
