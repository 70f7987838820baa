import ProgramImage.Pattern.Language
import ProgramImage.Proofs.PhaseEvents
import ProgramImage.Proofs.References
import ProgramImage.Proofs.TableCounts

/-!
# The order of phases

A load neither looks ahead nor goes back. What stands in the document for later phases has no
part in an error, and what the phases up to one of them have built is not rebuilt by the later
ones. So a document that loads does so without the fields of its later phases too, and the
program that it then is agrees with the whole one in all that these phases build.

## Main definitions

* `Document.upToPhase` is a document without the fields of later phases.
* `Program.KeptUpTo` says that one program has what the phases up to one of them have built in
  another.

## Main statements

* `Load.step_kept` and `Load.step_empty` are the later phases, with their fields and without.
* `Load.static_upToPhase` compares a load with one that has no later fields.
* `Load.load_in_phase_order` says this for whole loads, and where a load fails.
-/

namespace ProgramImage

namespace LoadPhase

theorem sources_le (last : LoadPhase) : sources ≤ last :=
  Nat.zero_le _

/-- The phases before the constants are those up to a phase and those behind it. -/
theorem beforeConstants_split (last : LoadPhase) :
    beforeConstants =
      beforeConstants.filter (· ≤ last) ++ beforeConstants.filter (¬ · ≤ last) := by
  cases last <;> rfl

end LoadPhase

namespace Document

variable {doc : Document} {last stage : LoadPhase}

/-- A field of a document for a phase, or an empty one when the phase comes after the last. -/
def fieldUpTo {α : Type} (doc : Document) (last stage : LoadPhase) (field : Document → α) : α :=
  if stage ≤ last then field doc else field empty

/-- A document without the fields of the phases after the last. -/
def upToPhase (doc : Document) (last : LoadPhase) : Document where
  sources := doc.fieldUpTo last .sources sources
  globalMask := doc.fieldUpTo last .globalBuffer globalMask
  globalSize := doc.fieldUpTo last .globalBuffer globalSize
  typeNames := doc.fieldUpTo last .names typeNames
  propertyNames := doc.fieldUpTo last .names propertyNames
  fieldNames := doc.fieldUpTo last .names fieldNames
  invokeNames := doc.fieldUpTo last .names invokeNames
  virtualInvokeNames := doc.fieldUpTo last .names virtualInvokeNames
  fields := doc.fieldUpTo last .names fields
  types := doc.fieldUpTo last .types types
  boxedTypes := doc.fieldUpTo last .boxedTypes boxedTypes
  listFlavors := doc.fieldUpTo last .listFlavors listFlavors
  mapFlavors := doc.fieldUpTo last .mapFlavors mapFlavors
  invokes := doc.fieldUpTo last .invokes invokes
  literals := doc.fieldUpTo last .literals literals
  validators := doc.fieldUpTo last .validators validators
  regexes := doc.fieldUpTo last .regexes regexes
  constants := doc.fieldUpTo last .constants constants

theorem upToPhase_agrees (h : stage ≤ last) : doc.AgreesOn (doc.upToPhase last) stage := by
  cases stage <;> simp [AgreesOn, upToPhase, fieldUpTo, h]

theorem upToPhase_empty (h : ¬stage ≤ last) : empty.AgreesOn (doc.upToPhase last) stage := by
  cases stage <;> simp [AgreesOn, upToPhase, fieldUpTo, h]

end Document

/-! ### What later phases keep -/

/-- What the phases up to one of them have built in a program is the same in another one. Types
    and regular expressions are built by two phases, and the second only adds to the first. -/
structure Program.KeptUpTo (last : LoadPhase) (program later : Program) : Prop where
  sources : later.sources = program.sources
  names : .names ≤ last → later.names = program.names ∧ later.fields = program.fields
  types : .types ≤ last → later.types.Extends program.types
  boxedTypes : .boxedTypes ≤ last → later.types = program.types
  listFlavors : .listFlavors ≤ last → later.flavors.lists = program.flavors.lists
  mapFlavors : .mapFlavors ≤ last → later.flavors = program.flavors
  invokes : .invokes ≤ last → later.invokes = program.invokes
  regexes : .regexes ≤ last → program.regexes.entries <+: later.regexes.entries
  literals : .literals ≤ last → later.memory = program.memory

namespace Program.KeptUpTo

variable {last : LoadPhase} {program mid later : Program}

theorem refl (last : LoadPhase) (program : Program) : program.KeptUpTo last program where
  sources := rfl
  names _ := ⟨rfl, rfl⟩
  types _ := .refl _
  boxedTypes _ := rfl
  listFlavors _ := rfl
  mapFlavors _ := rfl
  invokes _ := rfl
  regexes _ := List.prefix_rfl
  literals _ := rfl

theorem trans (hmid : program.KeptUpTo last mid) (hlater : mid.KeptUpTo last later) :
    program.KeptUpTo last later where
  sources := hlater.sources.trans hmid.sources
  names h := ⟨(hlater.names h).1.trans (hmid.names h).1, (hlater.names h).2.trans (hmid.names h).2⟩
  types h := (hlater.types h).trans (hmid.types h)
  boxedTypes h := (hlater.boxedTypes h).trans (hmid.boxedTypes h)
  listFlavors h := (hlater.listFlavors h).trans (hmid.listFlavors h)
  mapFlavors h := (hlater.mapFlavors h).trans (hmid.mapFlavors h)
  invokes h := (hlater.invokes h).trans (hmid.invokes h)
  regexes h := (hmid.regexes h).trans (hlater.regexes h)
  literals h := (hlater.literals h).trans (hmid.literals h)

end Program.KeptUpTo

theorem Traced.outcome_map_eq_ok {α β : Type} {x : Traced α} {f : α → β} {b : β} :
    (x >>= fun a => pure (f a)).outcome = .ok b ↔ ∃ a, x.outcome = .ok a ∧ f a = b := by
  rw [Traced.outcome_bind, Except.bind_eq_ok]
  constructor
  · rintro ⟨a, ha, hpure⟩
    cases hpure
    exact ⟨a, ha, rfl⟩
  · rintro ⟨a, ha, rfl⟩
    exact ⟨a, ha, rfl⟩

namespace Load

variable {patterns : PatternLanguage} {config : LoadConfig} {doc : Document}
  {program next : Program} {last stage : LoadPhase}

/-- A phase keeps what the phases before it have built. -/
theorem step_kept (hlater : ¬stage ≤ last)
    (h : (step patterns config doc program stage).outcome = .ok next) :
    program.KeptUpTo last next := by
  cases stage with
  | sources => exact absurd (LoadPhase.sources_le last) hlater
  | globalBuffer =>
    obtain ⟨made, -, rfl⟩ := Traced.outcome_map_eq_ok.mp h
    exact { Program.KeptUpTo.refl last program with
      literals := fun hlast => absurd hlast (LoadPhase.not_le_of_le hlater (by decide)) }
  | names =>
    obtain ⟨made, -, rfl⟩ := Traced.outcome_map_eq_ok.mp h
    exact { Program.KeptUpTo.refl last program with
      names := fun hlast => absurd hlast hlater }
  | types =>
    obtain ⟨made, -, rfl⟩ := Traced.outcome_map_eq_ok.mp h
    exact { Program.KeptUpTo.refl last program with
      types := fun hlast => absurd hlast hlater
      boxedTypes := fun hlast => absurd hlast (LoadPhase.not_le_of_le hlater (by decide)) }
  | boxedTypes =>
    obtain ⟨made, hmade, rfl⟩ := Traced.outcome_map_eq_ok.mp h
    exact { Program.KeptUpTo.refl last program with
      types := fun _ => (boxedTypes_eq_ok_iff.mp hmade).extends_table
      boxedTypes := fun hlast => absurd hlast hlater }
  | listFlavors =>
    obtain ⟨made, -, rfl⟩ := Traced.outcome_map_eq_ok.mp h
    exact { Program.KeptUpTo.refl last program with
      listFlavors := fun hlast => absurd hlast hlater
      mapFlavors := fun hlast => absurd hlast (LoadPhase.not_le_of_le hlater (by decide)) }
  | mapFlavors =>
    obtain ⟨made, hmade, rfl⟩ := Traced.outcome_map_eq_ok.mp h
    exact { Program.KeptUpTo.refl last program with
      listFlavors := fun _ => (mapFlavors_length hmade).2
      mapFlavors := fun hlast => absurd hlast hlater }
  | invokes =>
    obtain ⟨made, -, rfl⟩ := Traced.outcome_map_eq_ok.mp h
    exact { Program.KeptUpTo.refl last program with
      invokes := fun hlast => absurd hlast hlater }
  | regexes =>
    obtain ⟨made, -, rfl⟩ := Traced.outcome_map_eq_ok.mp h
    exact { Program.KeptUpTo.refl last program with
      regexes := fun hlast => absurd hlast hlater }
  | literals =>
    obtain ⟨made, -, rfl⟩ := Traced.outcome_map_eq_ok.mp h
    exact { Program.KeptUpTo.refl last program with
      literals := fun hlast => absurd hlast hlater }
  | validators =>
    obtain ⟨made, hmade, rfl⟩ := Traced.outcome_map_eq_ok.mp h
    exact { Program.KeptUpTo.refl last program with
      regexes := fun _ => validators_appends hmade }
  | constants =>
    cases h
    exact .refl last program

/-- Phases keep what those before them have built. -/
theorem run_kept {stages : List LoadPhase} (hlater : ∀ stage ∈ stages, ¬stage ≤ last)
    (h : (stages.foldlM (step patterns config doc) program).outcome = .ok next) :
    program.KeptUpTo last next := by
  rw [Traced.outcome_foldlM] at h
  refine Except.foldlM_keeps (P := fun mid => program.KeptUpTo last mid) ?_ (.refl last program) h
  intro mid stage after hstage hmid hafter
  exact hmid.trans (step_kept (hlater stage hstage) hafter)

/-! ### Phases without fields -/

theorem memory_empty (config : LoadConfig) :
    ∃ made, (memory config 0 "").outcome = .ok made := by
  obtain ⟨maxGlobalBytes, verifyMasks, keepSources, maxHeapBytes⟩ := config
  cases verifyMasks <;> exact ⟨_, rfl⟩

/-- A phase without fields succeeds, and adds nothing to what the phases before it have built. -/
theorem step_empty (program : Program) (hlater : ¬stage ≤ last)
    (hempty : Document.empty.AgreesOn doc stage) :
    ∃ next, (step patterns config doc program stage).outcome = .ok next ∧
      next.KeptUpTo last program := by
  rw [step_congr hempty]
  cases stage with
  | sources => exact absurd (LoadPhase.sources_le last) hlater
  | globalBuffer =>
    obtain ⟨made, hmade⟩ := memory_empty config
    refine ⟨_, Traced.outcome_map_eq_ok.mpr ⟨made, hmade, rfl⟩, ?_⟩
    exact { Program.KeptUpTo.refl last program with
      literals := fun hlast => absurd hlast (LoadPhase.not_le_of_le hlater (by decide)) }
  | names =>
    refine ⟨_, rfl, ?_⟩
    exact { Program.KeptUpTo.refl last program with
      names := fun hlast => absurd hlast hlater }
  | types =>
    refine ⟨_, rfl, ?_⟩
    exact { Program.KeptUpTo.refl last program with
      types := fun hlast => absurd hlast hlater
      boxedTypes := fun hlast => absurd hlast (LoadPhase.not_le_of_le hlater (by decide)) }
  | invokes =>
    refine ⟨_, rfl, ?_⟩
    exact { Program.KeptUpTo.refl last program with
      invokes := fun hlast => absurd hlast hlater }
  | regexes =>
    refine ⟨_, rfl, ?_⟩
    exact { Program.KeptUpTo.refl last program with
      regexes := fun hlast => absurd hlast hlater }
  | _ => exact ⟨_, rfl, .refl last program⟩

theorem run_empty (program : Program) {stages : List LoadPhase}
    (hlater : ∀ stage ∈ stages, ¬stage ≤ last)
    (hempty : ∀ stage ∈ stages, Document.empty.AgreesOn doc stage) :
    ∃ part, (stages.foldlM (step patterns config doc) program).outcome = .ok part ∧
      part.KeptUpTo last program := by
  induction stages generalizing program with
  | nil => exact ⟨program, rfl, .refl last program⟩
  | cons first rest ih =>
    obtain ⟨hfirst, hrest⟩ := List.forall_mem_cons.mp hlater
    obtain ⟨hemptyFirst, hemptyRest⟩ := List.forall_mem_cons.mp hempty
    obtain ⟨mid, hmid, hkept⟩ := step_empty program hfirst hemptyFirst
    obtain ⟨part, hpart, hkeptRest⟩ := ih mid hrest hemptyRest
    refine ⟨part, ?_, hkeptRest.trans hkept⟩
    rw [List.foldlM_cons, Traced.bind_of_ok hmid]
    exact hpart

/-! ### Documents without later fields -/

theorem static_upToPhase (h : (static patterns config doc).outcome = .ok program)
    (last : LoadPhase) :
    ∃ part, (static patterns config (doc.upToPhase last)).outcome = .ok part ∧
      part.KeptUpTo last program := by
  have hbefore : ∀ stage ∈ LoadPhase.beforeConstants.filter (· ≤ last),
      doc.AgreesOn (doc.upToPhase last) stage := by
    intro stage hstage
    exact Document.upToPhase_agrees (by simpa using (List.mem_filter.mp hstage).2)
  have hlater : ∀ stage ∈ LoadPhase.beforeConstants.filter (¬ · ≤ last), ¬stage ≤ last := by
    intro stage hstage
    simpa using (List.mem_filter.mp hstage).2
  rw [static_eq_foldlM, LoadPhase.beforeConstants_split last, List.foldlM_append,
    Traced.outcome_bind] at h ⊢
  obtain ⟨mid, hmid, hrest⟩ := Except.bind_eq_ok.mp h
  obtain ⟨part, hpart, hkept⟩ := run_empty mid hlater
    fun stage hstage => Document.upToPhase_empty (hlater stage hstage)
  -- the part has nothing beyond what both have in common, which the later phases keep
  refine ⟨part, ?_, hkept.trans (run_kept hlater hrest)⟩
  rw [run_congr hbefore, hmid]
  exact hpart

theorem regexes_of_empty (h : (static patterns config doc).outcome = .ok program)
    (hregexes : doc.regexes = []) (hvalidators : doc.validators = []) :
    program.regexes = .empty := by
  obtain ⟨run⟩ := static_eq_ok_iff.mp h
  have hliteral := run.regexes_ok
  have hall := run.validators_ok
  rw [hregexes] at hliteral
  rw [hvalidators] at hall
  have hnone : RegexTable.empty = run.regexes := Except.ok.inj hliteral
  have hsame : run.regexes = program.regexes := Except.ok.inj hall
  rw [← hsame, ← hnone]

variable {σ : Type} {initializer : Initializer σ} {state : σ}

/-- Phases come one after the other. A load that fails stops in a phase, and another document
    that is the same up to this phase gives the same report. A load that succeeds does so without
    the fields after any of the phases, with a program that has what the phases up to this one
    have built, and whose regular expressions are the first ones of the whole program. -/
theorem load_in_phase_order (patterns : PatternLanguage) (config : LoadConfig)
    (initializer : Initializer σ) (state : σ) (doc : Document) (hkeeps : initializer.KeepsMemory) :
    (∀ error, (load patterns config initializer state doc).outcome = .error error →
      ∃ stage, (load patterns config initializer state doc).lastPhase? = some stage ∧
        ∀ other, doc.AgreesUpTo other stage →
          load patterns config initializer state other =
            load patterns config initializer state doc) ∧
    ∀ program, (load patterns config initializer state doc).outcome = .ok program → ∀ last,
      ∃ part, (load patterns config initializer state (doc.upToPhase last)).outcome = .ok part ∧
        part.KeptUpTo last program ∧ part.regexes.entries <+: program.regexes.entries := by
  refine ⟨fun error h => load_stops h, ?_⟩
  intro program h last
  have hstatic := static_of_load h (.inr hkeeps)
  obtain ⟨part, hpart, hkept⟩ := static_upToPhase hstatic last
  have hload : (load patterns config initializer state (doc.upToPhase last)).outcome =
      .ok part := by
    by_cases hlast : LoadPhase.constants ≤ last
    · have hsame : doc.upToPhase last = doc := by
        refine Document.eq_of_agreesUpTo_constants fun stage hstage => ?_
        exact Document.upToPhase_agrees (LoadPhase.le_trans hstage hlast)
      rw [hsame] at hpart ⊢
      obtain rfl : program = part := Except.ok.inj (hstatic.symm.trans hpart)
      exact h
    · exact load_of_static hpart (Document.upToPhase_empty hlast)
  refine ⟨part, hload, hkept, ?_⟩
  by_cases hregexes : LoadPhase.regexes ≤ last
  · exact hkept.regexes hregexes
  · have hvalidators : ¬LoadPhase.validators ≤ last :=
      fun hlast => hregexes (LoadPhase.le_trans (by decide) hlast)
    have hnone : part.regexes = .empty :=
      regexes_of_empty hpart (Document.upToPhase_empty hregexes)
        (Document.upToPhase_empty hvalidators)
    rw [hnone]
    exact List.nil_prefix

/-- A document with a list type whose representation has no name. -/
def danglingList : Document :=
  { crossReferences with listFlavors := [⟨"List", "Rope", "Nat", "Chunk4", "Chunk8", "Tree"⟩] }

/-- The document with its flavors of lists and nothing behind them is a part of the whole. With
    a dangling list type it fails there, with or without what comes behind. -/
theorem phase_order_of_crossReferences :
    (∃ program part, (load .basic .standard .deferring [] crossReferences).outcome = .ok program ∧
      (load .basic .standard .deferring [] (crossReferences.upToPhase .listFlavors)).outcome =
        .ok part ∧
      part.types = program.types ∧ part.flavors.lists = program.flavors.lists ∧
      part.flavors.maps = [] ∧ program.flavors.maps.length = 1) ∧
    ∃ error, (load .basic .standard .deferring [] danglingList).outcome = .error error ∧
      (load .basic .standard .deferring []
        { danglingList with invokes := [], validators := [], constants := [] }).outcome =
          .error error := by
  constructor
  · have hok : (load .basic .standard .deferring [] crossReferences).outcome.toOption.any
        (fun program => program.flavors.maps.length == 1) = true := by
      decide +kernel
    obtain ⟨program, hload, hmaps⟩ := Except.exists_of_any hok
    obtain ⟨-, hsuccess⟩ := load_in_phase_order .basic .standard .deferring [] crossReferences
      Initializer.keepsMemory_deferring
    obtain ⟨part, hpart, hkept, -⟩ := hsuccess program hload .listFlavors
    have hnone : (load .basic .standard .deferring []
        (crossReferences.upToPhase .listFlavors)).outcome.toOption.all
          (fun part => part.flavors.maps.isEmpty) = true := by
      decide +kernel
    rw [hpart] at hnone
    exact ⟨program, part, hload, hpart, (hkept.boxedTypes (by decide)).symm,
      (hkept.listFlavors (by decide)).symm, List.isEmpty_iff.mp hnone, eq_of_beq hmaps⟩
  · have hfails : (load .basic .standard .deferring [] danglingList).outcome.isOk = false := by
      decide +kernel
    have hphase : (load .basic .standard .deferring [] danglingList).lastPhase? =
        some .listFlavors := by
      decide +kernel
    obtain ⟨hfailure, -⟩ := load_in_phase_order .basic .standard .deferring [] danglingList
      Initializer.keepsMemory_deferring
    cases hload : (load .basic .standard .deferring [] danglingList).outcome with
    | ok program =>
      rw [hload] at hfails
      cases hfails
    | error error =>
      obtain ⟨stage, hstage, hsame⟩ := hfailure error hload
      rw [hphase] at hstage
      cases hstage
      refine ⟨error, rfl, ?_⟩
      rw [hsame _ ?_, hload]
      intro stage hstage
      cases stage with
      | invokes | validators | constants => exact absurd hstage (by decide)
      | _ => simp [Document.AgreesOn]

end Load

end ProgramImage
