import ProgramImage.Proofs.LoadRun

/-!
# A load as a run of phases

A load goes through its phases in a fixed order. Each of them takes the fields of the document
that belong to it and the program as the earlier ones left it, and writes a part of that
program. So two documents that agree on the fields of a phase make the same step from the same
program.

## Main definitions

* `LoadPhase.rank` is the order of the phases.
* `Document.AgreesOn` says that two documents have the same fields for a phase.
* `Load.step` is what a phase makes of a program.

## Main statements

* `Load.static_eq_foldlM` is a load as a run of its phases.
* `Load.step_congr` says which fields a phase looks at, and `Load.run_congr` a run of phases.
-/

namespace ProgramImage

/-! ### Phases and their fields -/

namespace LoadPhase

/-- The place of a phase in the order of a load. -/
def rank : LoadPhase → Nat
  | sources => 0
  | globalBuffer => 1
  | names => 2
  | types => 3
  | boxedTypes => 4
  | listFlavors => 5
  | mapFlavors => 6
  | invokes => 7
  | regexes => 8
  | literals => 9
  | validators => 10
  | constants => 11

instance : LE LoadPhase where
  le first second := first.rank ≤ second.rank

instance : DecidableLE LoadPhase :=
  fun first second => inferInstanceAs (Decidable (first.rank ≤ second.rank))

theorem le_trans {first second third : LoadPhase} (h : first ≤ second) (h' : second ≤ third) :
    first ≤ third :=
  Nat.le_trans h h'

/-- What comes behind a phase that is after the last one is after it too. -/
theorem not_le_of_le {stage other last : LoadPhase} (h : ¬stage ≤ last) (hother : stage ≤ other) :
    ¬other ≤ last :=
  fun hlast => h (le_trans hother hlast)

/-- The phases before the constants, in their order. -/
def beforeConstants : List LoadPhase :=
  [sources, globalBuffer, names, types, boxedTypes, listFlavors, mapFlavors, invokes, regexes,
    literals, validators]

end LoadPhase

namespace Document

/-- Two documents have the same fields for a phase. -/
def AgreesOn (doc other : Document) : LoadPhase → Prop
  | .sources => other.sources = doc.sources
  | .globalBuffer => other.globalSize = doc.globalSize ∧ other.globalMask = doc.globalMask
  | .names => other.typeNames = doc.typeNames ∧ other.propertyNames = doc.propertyNames ∧
      other.fieldNames = doc.fieldNames ∧ other.invokeNames = doc.invokeNames ∧
      other.virtualInvokeNames = doc.virtualInvokeNames ∧ other.fields = doc.fields
  | .types => other.types = doc.types
  | .boxedTypes => other.boxedTypes = doc.boxedTypes
  | .listFlavors => other.listFlavors = doc.listFlavors
  | .mapFlavors => other.mapFlavors = doc.mapFlavors
  | .invokes => other.invokes = doc.invokes
  | .regexes => other.regexes = doc.regexes
  | .literals => other.literals = doc.literals
  | .validators => other.validators = doc.validators
  | .constants => other.constants = doc.constants

/-- Two documents have the same fields for all phases up to one of them. -/
def AgreesUpTo (doc other : Document) (last : LoadPhase) : Prop :=
  ∀ stage ≤ last, doc.AgreesOn other stage

/-- Documents that agree on the fields of every phase are the same. -/
theorem eq_of_agreesUpTo_constants {doc other : Document}
    (h : doc.AgreesUpTo other .constants) : other = doc := by
  have hall : ∀ stage, doc.AgreesOn other stage := by
    intro stage
    exact h stage (by cases stage <;> decide)
  obtain ⟨hsize, hmask⟩ := hall .globalBuffer
  obtain ⟨htypes, hproperties, hfields, hinvokes, hvirtual, hdeclared⟩ := hall .names
  cases doc
  cases other
  simp only [mk.injEq]
  exact ⟨hall .sources, hmask, hsize, htypes, hproperties, hfields, hinvokes, hvirtual, hdeclared,
    hall .types, hall .boxedTypes, hall .listFlavors, hall .mapFlavors, hall .invokes,
    hall .literals, hall .validators, hall .regexes, hall .constants⟩

end Document

/-! ### Steps -/

namespace Traced

variable {α β γ : Type}

theorem bind_of_ok {x : Traced α} {a : α} (h : x.outcome = .ok a) (f : α → Traced β) :
    x >>= f = ⟨x.events ++ (f a).events, (f a).outcome⟩ := by
  show andThen x f = _
  unfold andThen
  rw [h]

theorem bind_of_error {x : Traced α} {error : LoadError} (h : x.outcome = .error error)
    (f : α → Traced β) : x >>= f = ⟨x.events, .error error⟩ := by
  show andThen x f = _
  unfold andThen
  rw [h]

end Traced

instance : LawfulMonad Traced := by
  refine LawfulMonad.mk' Traced ?_ ?_ ?_
  · intro α x
    show x >>= pure = x
    cases h : x.outcome with
    | error error => rw [Traced.bind_of_error h, ← h]
    | ok a =>
      rw [Traced.bind_of_ok h]
      show Traced.mk (x.events ++ []) (.ok a) = x
      rw [List.append_nil, ← h]
  · intro α β a f
    exact Traced.bind_of_ok rfl f
  · intro α β γ x f g
    cases h : x.outcome with
    | error error =>
      rw [Traced.bind_of_error h, Traced.bind_of_error h]
      rfl
    | ok a =>
      rw [Traced.bind_of_ok h, Traced.bind_of_ok h]
      cases hf : (f a).outcome with
      | error error =>
        rw [Traced.bind_of_error hf]
        rfl
      | ok b =>
        rw [Traced.bind_of_ok hf]
        show Traced.mk (x.events ++ (f a).events ++ (g b).events) (g b).outcome = _
        rw [List.append_assoc]

/-- What a load starts with. No phase looks at any of it before it is made. -/
def Program.blank : Program where
  names := .initial
  sources := .empty
  memory := ⟨.zeros 0 ⟨[]⟩, .empty 0⟩
  types := .empty 0
  fields := .empty 0
  flavors := .empty
  invokes := .empty 0
  regexes := .empty

namespace Load

/-- What a phase makes of a program. Constants are left to an initializer. -/
def step (patterns : PatternLanguage) (config : LoadConfig) (doc : Document) (program : Program) :
    LoadPhase → Traced Program
  | .sources => return { program with sources := ← sources config doc.sources }
  | .globalBuffer => return { program with
      memory := ← memory config doc.globalSize.toNat doc.globalMask }
  | .names => do
    let (names, fields) ← names doc
    return { program with names, fields }
  | .types => return { program with types := ← types config program.names doc.types }
  | .boxedTypes => return { program with
      types := ← boxedTypes program.names program.types doc.boxedTypes }
  | .listFlavors => return { program with
      flavors := ← listFlavors program.names program.types program.flavors doc.listFlavors }
  | .mapFlavors => return { program with
      flavors := ← mapFlavors program.names program.types program.flavors doc.mapFlavors }
  | .invokes => return { program with invokes := ← invokes config program.names doc.invokes }
  | .regexes => return { program with regexes := ← regexes patterns doc.regexes }
  | .literals => return { program with
      memory := ← literals program.names program.types program.regexes program.memory doc.literals }
  | .validators => return { program with
      regexes := ← validators patterns program.names program.regexes doc.validators }
  | .constants => return program

variable {patterns : PatternLanguage} {config : LoadConfig} {doc other : Document}
  {program : Program} {stage : LoadPhase}

/-- A load up to its constants runs one phase after the other. -/
theorem static_eq_foldlM (patterns : PatternLanguage) (config : LoadConfig) (doc : Document) :
    static patterns config doc =
      LoadPhase.beforeConstants.foldlM (step patterns config doc) .blank := by
  simp only [static, LoadPhase.beforeConstants, List.foldlM_cons, List.foldlM_nil, step,
    bind_assoc, pure_bind]
  rfl

/-- A phase looks at no fields but its own. -/
theorem step_congr (h : doc.AgreesOn other stage) :
    step patterns config other program stage = step patterns config doc program stage := by
  cases stage with
  | globalBuffer =>
    obtain ⟨hsize, hmask⟩ := h
    simp only [step, hsize, hmask]
  | names =>
    obtain ⟨htypes, hproperties, hfields, hinvokes, hvirtual, hdeclared⟩ := h
    simp only [step, names, htypes, hproperties, hfields, hinvokes, hvirtual, hdeclared]
  | constants => rfl
  | _ =>
    simp only [Document.AgreesOn] at h
    simp only [step, h]

/-- Phases that find the same fields in two documents make the same run. -/
theorem run_congr {stages : List LoadPhase} (h : ∀ stage ∈ stages, doc.AgreesOn other stage) :
    stages.foldlM (step patterns config other) program =
      stages.foldlM (step patterns config doc) program := by
  induction stages generalizing program with
  | nil => rfl
  | cons first rest ih =>
    obtain ⟨hfirst, hrest⟩ := List.forall_mem_cons.mp h
    rw [List.foldlM_cons, List.foldlM_cons, step_congr hfirst]
    congr
    funext mid
    exact ih hrest

end Load

end ProgramImage
