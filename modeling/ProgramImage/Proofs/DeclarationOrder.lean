import ProgramImage.Pattern.Language
import ProgramImage.Proofs.FlavorRun
import ProgramImage.Proofs.LoadRun

/-!
# The order of declarations

A document lists its declarations in some order, but what is loaded does not depend on it.
Every declaration has a slot of its own, so that two of them are stored in either order with
the same result. This includes the types of structs behind pointers: such a type is looked up
in the very table that it is stored in, but only a struct can be behind a pointer, and all
structs are in the table before.

## Main definitions

* `Document.Reorders` says that two documents differ in the order of their declarations only.

## Main statements

* `Load.boxedTypes_perm` and `Load.fill_perm_of_const` store declarations in another order.
* `Load.static_of_reorders` goes through the phases of a load in another order.
* `Load.load_of_reorders` says that both documents give the same program, or none.
-/

namespace ProgramImage

/-- Two documents differ in the order of their declarations only: in that of the fields, of the
    types and those of structs behind pointers, of the flavors, and of the callables. -/
structure Document.Reorders (doc other : Document) : Prop where
  fields : doc.fields.Perm other.fields
  types : doc.types.Perm other.types
  boxedTypes : doc.boxedTypes.Perm other.boxedTypes
  listFlavors : doc.listFlavors.Perm other.listFlavors
  mapFlavors : doc.mapFlavors.Perm other.mapFlavors
  invokes : doc.invokes.Perm other.invokes
  rest : other = { doc with
    fields := other.fields
    types := other.types
    boxedTypes := other.boxedTypes
    listFlavors := other.listFlavors
    mapFlavors := other.mapFlavors
    invokes := other.invokes }

theorem Document.Reorders.symm {doc other : Document} (h : doc.Reorders other) :
    other.Reorders doc where
  fields := h.fields.symm
  types := h.types.symm
  boxedTypes := h.boxedTypes.symm
  listFlavors := h.listFlavors.symm
  mapFlavors := h.mapFlavors.symm
  invokes := h.invokes.symm
  rest := by rw [h.rest]

namespace Load

/-! ### Phases -/

section Phases

variable {config : LoadConfig} {registry : NameRegistry}

/-- A table may be filled in any order, when the records are resolved without it. -/
theorem fill_perm_of_const {ρ α : Type} [Declared α] {make : ρ → Traced α}
    {table later : SlotTable α} {records others : List ρ} (hperm : records.Perm others)
    (h : (fill (fun _ record => make record) table records).outcome = .ok later) :
    (fill (fun _ record => make record) table others).outcome = .ok later :=
  fill_perm (fun _ _ _ _ _ _ _ _ hmake => hmake) (fun _ _ _ _ _ _ hmake => hmake) hperm h

theorem names_perm {doc other : Document} {fields : FieldTable} (hreorders : doc.Reorders other)
    (h : (names doc).outcome = .ok (registry, fields)) :
    (names other).outcome = .ok (registry, fields) := by
  obtain ⟨typed, fielded, htyped, hfielded, hfill, hregistry⟩ := names_eq_ok_iff.mp h
  rw [hreorders.rest]
  exact names_eq_ok_iff.mpr ⟨typed, fielded, htyped, hfielded,
    fill_perm_of_const hreorders.fields hfill, hregistry⟩

theorem types_perm {records others : List TypeRecord} {later : TypeTable}
    (hperm : records.Perm others) (h : (types config registry records).outcome = .ok later) :
    (types config registry others).outcome = .ok later := by
  unfold types at h ⊢
  rw [Traced.outcome_bind] at h ⊢
  exact fill_perm_of_const hperm h

theorem invokes_perm {records others : List InvokeRecord} {later : InvokeTable}
    (hperm : records.Perm others) (h : (invokes config registry records).outcome = .ok later) :
    (invokes config registry others).outcome = .ok later := by
  unfold invokes at h ⊢
  rw [Traced.outcome_bind] at h ⊢
  exact fill_perm_of_const hperm h

/-- A struct behind a pointer was in the table before another such type was stored. -/
theorem boxedType_of_insert {table mid : TypeTable} {record other : BoxedRecord}
    {desc found : TypeDescriptor} (hdesc : boxedType registry table record = .ok desc)
    (hinsert : SlotTable.insert table desc = .ok mid)
    (h : boxedType registry mid other = .ok found) :
    boxedType registry table other = .ok found := by
  obtain ⟨tid, own, wrapped, layout, htid, hown, hwrapped, hstruct, hfound⟩ :=
    boxedType_eq_ok_iff.mp h
  obtain ⟨boxedTid, boxedOwn, boxed, boxedLayout, -, -, -, -, rfl⟩ := boxedType_eq_ok_iff.mp hdesc
  obtain ⟨-, -, -, hget⟩ := SlotTable.insert_eq_ok hinsert
  unfold TypeTable.type? at hwrapped
  rw [hget] at hwrapped
  split at hwrapped
  · -- what is stored is no struct, and so not what the other type wraps
    cases hwrapped
    cases hstruct
  · exact boxedType_eq_ok_iff.mpr
      ⟨tid, own, wrapped, layout, htid, hown, hwrapped, hstruct, hfound⟩

theorem boxedTypes_perm {declared later : TypeTable} {records others : List BoxedRecord}
    (hperm : records.Perm others)
    (h : (boxedTypes registry declared records).outcome = .ok later) :
    (boxedTypes registry declared others).outcome = .ok later := by
  unfold boxedTypes at h ⊢
  rw [Traced.outcome_bind] at h ⊢
  refine fill_perm ?_ ?_ hperm h
  · intro table record desc mid other found hdesc hinsert hfound
    simp only [Traced.outcome_lift_id] at hdesc hfound ⊢
    exact boxedType_of_insert hdesc hinsert hfound
  · intro table desc mid other found hinsert hfound
    simp only [Traced.outcome_lift_id] at hfound ⊢
    exact boxedType_of_extends (SlotTable.extends_of_insert hinsert) hfound

end Phases

/-! ### Loads -/

variable {σ : Type} {patterns : PatternLanguage} {config : LoadConfig} {initializer : Initializer σ}
  {state : σ} {doc other : Document}

/-- The phases before the constants give the same program for every order of the
    declarations. -/
theorem static_of_reorders (hreorders : doc.Reorders other) {program : Program}
    (h : (static patterns config doc).outcome = .ok program) :
    (static patterns config other).outcome = .ok program := by
  obtain ⟨run⟩ := static_eq_ok_iff.mp h
  have hnames := names_perm hreorders run.names_ok
  rw [hreorders.rest] at hnames ⊢
  exact static_eq_ok_iff.mpr ⟨{ run with
    names_ok := hnames
    types_ok := types_perm hreorders.types run.types_ok
    boxedTypes_ok := boxedTypes_perm hreorders.boxedTypes run.boxedTypes_ok
    listFlavors_ok := listFlavors_perm hreorders.listFlavors run.listFlavors_ok
    mapFlavors_ok := mapFlavors_perm hreorders.mapFlavors run.mapFlavors_ok
    invokes_ok := invokes_perm hreorders.invokes run.invokes_ok }⟩

/-- A load of declarations in another order succeeds alike. It gives the same program, and
    leaves the initializer in the same state. -/
theorem load_of_reorders (patterns : PatternLanguage) (config : LoadConfig)
    (initializer : Initializer σ) (state : σ) (hreorders : doc.Reorders other) :
    (∀ program, (load patterns config initializer state doc).outcome = .ok program ↔
      (load patterns config initializer state other).outcome = .ok program) ∧
    (load patterns config initializer state doc).state =
      (load patterns config initializer state other).state := by
  have hconstants : other.constants = doc.constants := by
    rw [hreorders.rest]
  have hstatic : ∀ program, (static patterns config doc).outcome = .ok program ↔
      (static patterns config other).outcome = .ok program :=
    fun program => ⟨static_of_reorders hreorders, static_of_reorders hreorders.symm⟩
  constructor
  · intro program
    rw [load_eq_ok_iff, load_eq_ok_iff, hconstants]
    simp only [hstatic]
  · cases hfirst : (static patterns config doc).outcome with
    | ok first =>
      obtain ⟨run⟩ := static_eq_ok_iff.mp hfirst
      obtain ⟨otherRun⟩ := static_eq_ok_iff.mp ((hstatic first).mp hfirst)
      rw [load_state run, load_state otherRun, hconstants]
    | error error =>
      -- neither load gets as far as its constants
      cases hsecond : (static patterns config other).outcome with
      | ok second =>
        rw [(hstatic second).mpr hsecond] at hfirst
        cases hfirst
      | error other => rw [load_state_of_error hfirst, load_state_of_error hsecond]

/-- A document with two declarations of each kind that has an order. -/
def twoOfEach : Document :=
  { Document.empty with
    globalSize := 8
    typeNames := ["Point", "Pair", "Point$Boxed", "Pair$Boxed", "Chunk4", "Chunk8", "Tree",
      "Branch"]
    fieldNames := ["x", "y"]
    invokeNames := ["one", "two"]
    fields := [⟨"x", "x", "Nat", false⟩, ⟨"y", "y", "Bool", false⟩]
    types :=
      [⟨"Point", none, ⟨0, 8, 8, none, "1"⟩, .struct ["x"] [0]⟩,
       ⟨"Pair", none, ⟨0, 16, 16, none, "12"⟩, .struct ["x", "y"] [0, 8]⟩,
       ⟨"Chunk4", none, ⟨0, 8, 8, none, "2"⟩, .partialVector "Nat" 4⟩,
       ⟨"Chunk8", none, ⟨0, 8, 8, none, "2"⟩, .partialVector "Nat" 8⟩,
       ⟨"Tree", none, ⟨0, 8, 8, none, "2"⟩, .listTree "Nat"⟩,
       ⟨"Branch", none, ⟨0, 8, 8, none, "2"⟩, .mapTree "Nat" "Pair"⟩]
    boxedTypes := [⟨"Point$Boxed", "Point", "Point"⟩, ⟨"Pair$Boxed", "Pair", "Pair"⟩]
    listFlavors :=
      [⟨"Tree", "Tree", "Pair", "Chunk4", "Chunk8", "Tree"⟩,
       ⟨"Tree", "Tree", "Nat", "Chunk4", "Chunk8", "Tree"⟩]
    mapFlavors :=
      [⟨"Branch", "Branch", "Nat", "Pair", "Pair", "Branch"⟩,
       ⟨"Branch", "Branch", "Nat", "Nat", "Pair", "Branch"⟩]
    invokes :=
      [⟨"one", "one", "", .unknown, .unknown, false, [], "Nat",
        .body ⟨true, 0, 0, "", 0, 0, [], .null, []⟩⟩,
       ⟨"two", "two", "", .unknown, .unknown, false, [], "Nat",
        .body ⟨true, 0, 0, "", 0, 0, [], .null, []⟩⟩]
    constants := [⟨0, "two", "Nat"⟩] }

/-- The same document with all declarations the other way round. -/
def twoOfEachReversed : Document :=
  { twoOfEach with
    fields := twoOfEach.fields.reverse
    types := twoOfEach.types.reverse
    boxedTypes := twoOfEach.boxedTypes.reverse
    listFlavors := twoOfEach.listFlavors.reverse
    mapFlavors := twoOfEach.mapFlavors.reverse
    invokes := twoOfEach.invokes.reverse }

theorem load_of_twoOfEachReversed :
    ∃ program, twoOfEach.Reorders twoOfEachReversed ∧
      (load .basic .standard .deferring [] twoOfEach).outcome = .ok program ∧
      (load .basic .standard .deferring [] twoOfEachReversed).outcome = .ok program ∧
      (load .basic .standard .deferring [] twoOfEachReversed).state = [⟨0, ⟨1⟩, .nat⟩] := by
  have hreorders : twoOfEach.Reorders twoOfEachReversed := by
    constructor
    · exact (List.reverse_perm _).symm
    · exact (List.reverse_perm _).symm
    · exact (List.reverse_perm _).symm
    · exact (List.reverse_perm _).symm
    · exact (List.reverse_perm _).symm
    · exact (List.reverse_perm _).symm
    · rfl
  have hok : (load .basic .standard .deferring [] twoOfEach).outcome.isOk = true := by
    decide +kernel
  obtain ⟨program, hload⟩ := Except.exists_of_isOk hok
  have hstate : (load .basic .standard .deferring [] twoOfEach).state = [⟨0, ⟨1⟩, .nat⟩] := by
    decide +kernel
  obtain ⟨hsame, hsameState⟩ := load_of_reorders .basic .standard .deferring [] hreorders
  exact ⟨program, hreorders, hload, (hsame program).mp hload, by rw [← hsameState, hstate]⟩

end Load

end ProgramImage
