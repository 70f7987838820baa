import Mathlib.Data.List.Dedup
import Mathlib.Data.Option.Basic
import ProgramImage.Proofs.References
import ProgramImage.Proofs.Settings

/-!
# Keys that are kept once

Source texts are kept by file, regular expressions by the text that literals use for them or by
the type they are for. What comes under a key that is taken adds nothing to the count, so there
are as many entries as there are different keys.

## Main definitions

* `AddsKey` says that a list of different keys has one more, unless it had it before.
* `RegexTable.texts` and `RegexTable.validated` are the keys of a table of regular expressions.

## Main statements

* `Except.foldlM_addsKey` collects the different keys of a list.
* `RegexTable.size_eq` counts the entries of a table by their keys.
* `Load.sources_size`, `Load.regexes_keys` and `Load.validators_keys` say which keys there are
  after a phase.
-/

namespace ProgramImage

/-! ### Lists of different keys -/

section AddsKey

variable {κ : Type}

/-- Lists of the same keys, each of them once, are of one length. -/
theorem length_eq_dedup [DecidableEq κ] {keys names : List κ} (hnodup : keys.Nodup)
    (hmem : ∀ key, key ∈ keys ↔ key ∈ names) : keys.length = names.dedup.length := by
  have hperm : keys.Perm names.dedup :=
    (List.perm_ext_iff_of_nodup hnodup (List.nodup_dedup names)).mpr (by simpa using hmem)
  exact hperm.length_eq

/-- A list of different keys has one more key, unless it had it before. -/
structure AddsKey (keys : List κ) (key : κ) (later : List κ) : Prop where
  nodup : keys.Nodup → later.Nodup
  mem_iff : ∀ other, other ∈ later ↔ other ∈ keys ∨ other = key

theorem AddsKey.of_mem {keys : List κ} {key : κ} (h : key ∈ keys) : AddsKey keys key keys where
  nodup := id
  mem_iff other := by
    constructor
    · exact .inl
    · rintro (hother | rfl)
      · exact hother
      · exact h

theorem AddsKey.append {keys : List κ} {key : κ} (h : key ∉ keys) :
    AddsKey keys key (keys ++ [key]) where
  nodup hkeys := by
    simp only [List.nodup_append, List.mem_singleton, List.nodup_singleton]
    refine ⟨hkeys, trivial, ?_⟩
    rintro other hother _ rfl rfl
    exact h hother
  mem_iff other := by simp

theorem AddsKey.map {δ : Type} {keys later : List κ} {key : κ} (h : AddsKey keys key later)
    {f : κ → δ} (hf : f.Injective) : AddsKey (keys.map f) (f key) (later.map f) where
  nodup hkeys := (h.nodup (.of_map f hkeys)).map hf
  mem_iff other := by
    simp only [List.mem_map, h.mem_iff]
    constructor
    · rintro ⟨found, hold | rfl, rfl⟩
      · exact .inl ⟨found, hold, rfl⟩
      · exact .inr rfl
    · rintro (⟨found, hold, rfl⟩ | rfl)
      · exact ⟨found, .inl hold, rfl⟩
      · exact ⟨key, .inr rfl, rfl⟩

/-- A fold whose steps add a key each collects the different keys of its list. -/
theorem Except.foldlM_addsKey {ε α σ : Type} {f : σ → α → Except ε σ} (keys : σ → List κ)
    (key : α → κ) (hstep : ∀ s x s', f s x = .ok s' → AddsKey (keys s) (key x) (keys s'))
    {xs : List α} {s s' : σ} (hs : (keys s).Nodup) (h : xs.foldlM f s = .ok s') :
    (keys s').Nodup ∧ ∀ other, other ∈ keys s' ↔ other ∈ keys s ∨ other ∈ xs.map key := by
  induction xs generalizing s with
  | nil =>
    cases h
    exact ⟨hs, by simp⟩
  | cons x xs ih =>
    rw [List.foldlM_cons] at h
    obtain ⟨mid, hmid, hrest⟩ := Except.bind_eq_ok.mp h
    have hadds := hstep s x mid hmid
    obtain ⟨hnodup, hmem⟩ := ih (hadds.nodup hs) hrest
    refine ⟨hnodup, fun other => ?_⟩
    rw [hmem, hadds.mem_iff, List.map_cons, List.mem_cons, or_assoc]

end AddsKey

theorem Keyed.length_ofList {κ α : Type} [DecidableEq κ] [KeyOrder κ] [LawfulKeyOrder κ]
    (entries : List (κ × α)) :
    (ofList entries).length = (entries.map Prod.fst).dedup.length := by
  let put (mapping : List (κ × α)) (entry : κ × α) := insert entry.1 entry.2 mapping
  have hkeys : ∀ mapping, IsSorted mapping → IsSorted (entries.foldl put mapping) ∧
      ∀ other, other ∈ (entries.foldl put mapping).map Prod.fst ↔
        other ∈ mapping.map Prod.fst ∨ other ∈ entries.map Prod.fst := by
    induction entries with
    | nil => simp
    | cons entry entries ih =>
      intro mapping hmapping
      obtain ⟨hsorted, hmem⟩ := ih _ (hmapping.insert entry.2)
      refine ⟨hsorted, fun other => ?_⟩
      rw [List.foldl_cons, hmem, mem_keys_insert, List.map_cons, List.mem_cons, or_assoc]
  obtain ⟨hsorted, hmem⟩ := hkeys [] .nil
  rw [← length_eq_dedup hsorted.nodup_keys (by simpa using hmem), List.length_map]
  rfl

theorem Sources.files_foldl_insert (records : List SourceRecord) (sources : Sources) :
    (records.foldl (fun sources record => sources.insert record.file record.contents)
        sources).files =
      (records.map fun record => (record.file, record.contents)).foldl
        (fun mapping entry => Keyed.insert entry.1 entry.2 mapping) sources.files := by
  induction records generalizing sources with
  | nil => rfl
  | cons record records ih => exact ih _

/-- A program keeps one text for each file, or none at all. -/
theorem Load.sources_size {config : LoadConfig} {records : List SourceRecord} {made : Sources}
    (h : (sources config records).outcome = .ok made) :
    made.size = if config.keepSources then (records.map SourceRecord.file).dedup.length else 0 := by
  rw [sources_outcome] at h
  cases h
  split
  · rw [Sources.size, Sources.files_foldl_insert]
    have hcount := Keyed.length_ofList (records.map fun record => (record.file, record.contents))
    rwa [List.map_map] at hcount
  · rfl

/-! ### Regular expressions -/

namespace RegexTable

variable {patterns : PatternLanguage} {table later : RegexTable} {text pattern : String}
  {tid : TypeId} {id : RegexId}

/-- The texts by which literals refer to regular expressions. -/
def texts (table : RegexTable) : List String :=
  table.entries.filterMap fun entry =>
    if entry.role = .literal then some entry.regex.text else none

/-- The types that have a regular expression. -/
def validated (table : RegexTable) : List TypeId :=
  table.entries.filterMap fun entry =>
    match entry.role with
    | .literal => none
    | .validator tid => some tid

theorem validatorCount_eq (table : RegexTable) : table.validatorCount = table.validated.length := by
  unfold validatorCount validated
  rw [List.length_filterMap_eq_countP]
  congr
  funext entry
  cases entry.role <;> rfl

theorem size_eq (table : RegexTable) :
    table.size = table.texts.length + table.validated.length := by
  unfold size texts validated
  induction table.entries with
  | nil => rfl
  | cons entry entries ih =>
    cases hrole : entry.role <;> simp [hrole, ih] <;> omega

theorem find?_eq_none_iff {κ : Type} {test : RegexEntry → Bool} {keyOf : RegexEntry → Option κ}
    {key : κ} (htest : ∀ entry, test entry = true ↔ keyOf entry = some key) :
    table.find? test = none ↔ key ∉ table.entries.filterMap keyOf := by
  simp [find?, List.findIdx?_eq_none_iff, ← Bool.not_eq_true, htest]

theorem lookup_eq_none_iff : table.lookup text = none ↔ text ∉ table.texts := by
  refine find?_eq_none_iff fun entry => ?_
  simp [RegexEntry.hasText]

theorem validatorId?_eq_none_iff : table.validatorId? tid = none ↔ tid ∉ table.validated := by
  refine find?_eq_none_iff fun entry => ?_
  cases hrole : entry.role <;> simp [RegexEntry.validates, hrole]

/-- A pattern is compiled when it is accepted between anchors, and kept as that. -/
theorem compile_eq_ok_iff {regex : Regex} :
    Regex.compile patterns text pattern = .ok regex ↔
      patterns.check (Regex.anchored pattern) = .ok () ∧
        regex = ⟨text, Regex.anchored pattern⟩ := by
  unfold Regex.compile
  cases patterns.check (Regex.anchored pattern) <;> simp [eq_comm]

theorem insert_addsKey (h : table.insert patterns text pattern = .ok (id, later)) :
    AddsKey table.texts text later.texts ∧ later.validated = table.validated := by
  unfold insert at h
  cases hlookup : table.lookup text with
  | some found =>
    rw [hlookup] at h
    cases h
    have hmem : text ∈ table.texts := by
      by_contra hnot
      rw [lookup_eq_none_iff.mpr hnot] at hlookup
      cases hlookup
    exact ⟨.of_mem hmem, rfl⟩
  | none =>
    rw [hlookup] at h
    obtain ⟨regex, hregex, hpush⟩ := Except.map_eq_ok.mp h
    cases hpush
    have hnew := lookup_eq_none_iff.mp hlookup
    constructor
    · simpa [push, texts, (compile_eq_ok_iff.mp hregex).2] using AddsKey.append hnew
    · simp [validated]

theorem addValidator_addsKey (h : table.addValidator patterns tid text pattern = .ok (id, later)) :
    AddsKey table.validated tid later.validated ∧ later.texts = table.texts := by
  unfold addValidator at h
  cases hfound : table.validatorId? tid with
  | some found =>
    rw [hfound] at h
    cases h
    have hmem : tid ∈ table.validated := by
      by_contra hnot
      rw [validatorId?_eq_none_iff.mpr hnot] at hfound
      cases hfound
    exact ⟨.of_mem hmem, rfl⟩
  | none =>
    rw [hfound] at h
    obtain ⟨regex, -, hpush⟩ := Except.map_eq_ok.mp h
    cases hpush
    have hnew := validatorId?_eq_none_iff.mp hfound
    constructor
    · simpa [push, validated] using AddsKey.append hnew
    · simp [texts]

end RegexTable

namespace Load

variable {patterns : PatternLanguage} {registry : NameRegistry} {table later : RegexTable}

/-- There is an entry for each text of the document, and none for a type. -/
theorem regexes_keys {records : List RegexRecord}
    (h : (regexes patterns records).outcome = .ok table) :
    table.texts.Nodup ∧ (∀ text, text ∈ table.texts ↔ text ∈ records.map RegexRecord.text) ∧
      table.validated = [] := by
  have hstep : ∀ mid record next, addRegex patterns mid record = .ok next →
      AddsKey mid.texts record.text next.texts ∧ next.validated = mid.validated := by
    intro mid record next hnext
    obtain ⟨id, hadded⟩ := addRegex_eq_ok hnext
    exact RegexTable.insert_addsKey hadded
  have hempty : RegexTable.empty.texts.Nodup := List.nodup_nil
  rw [regexes_outcome] at h
  obtain ⟨hnodup, hmem⟩ := Except.foldlM_addsKey RegexTable.texts RegexRecord.text
    (fun mid record next hnext => (hstep mid record next hnext).1) hempty h
  refine ⟨hnodup, by simpa [RegexTable.texts, RegexTable.empty] using hmem, ?_⟩
  refine Except.foldlM_keeps (P := fun mid => mid.validated = []) ?_ rfl h
  intro mid record next _ hmid hnext
  rw [(hstep mid record next hnext).2, hmid]

/-- There is an entry for each type that has a record, and the texts stay as they are. -/
theorem validators_keys {records : List ValidatorRecord} (hnone : table.validated = [])
    (h : (validators patterns registry table records).outcome = .ok later) :
    later.validated.Nodup ∧ (∀ key, key ∈ later.validated.map some ↔
        key ∈ (records.map ValidatorRecord.type).map (registry.lookup .type)) ∧
      later.texts = table.texts := by
  have hstep : ∀ mid record next, addValidator patterns registry mid record = .ok next →
      AddsKey (mid.validated.map some) (registry.lookup .type record.type)
        (next.validated.map some) ∧ next.texts = mid.texts := by
    intro mid record next hnext
    obtain ⟨tid, id, htid, hadded⟩ := addValidator_eq_ok hnext
    obtain ⟨hadds, htexts⟩ := RegexTable.addValidator_addsKey hadded
    rw [resolve_eq_ok_iff.mp htid]
    exact ⟨hadds.map (Option.some_injective _), htexts⟩
  have hempty : (table.validated.map some).Nodup := by simp [hnone]
  rw [validators_outcome] at h
  obtain ⟨hnodup, hmem⟩ := Except.foldlM_addsKey (fun mid => mid.validated.map some)
    (fun record => registry.lookup .type record.type)
    (fun mid record next hnext => (hstep mid record next hnext).1) hempty h
  refine ⟨.of_map some hnodup, by simpa [hnone] using hmem, ?_⟩
  refine Except.foldlM_keeps (P := fun mid => mid.texts = table.texts) ?_ rfl h
  intro mid record next _ hmid hnext
  rw [(hstep mid record next hnext).2, hmid]

/-- Two names of types stand for different types, so there are as many validators as names. -/
theorem validated_length (hnames : registry.TypesNumbered) {records : List ValidatorRecord}
    (hnone : table.validated = [])
    (h : (validators patterns registry table records).outcome = .ok later) :
    later.validated.length = (records.map ValidatorRecord.type).dedup.length := by
  obtain ⟨hnodup, hmem, -⟩ := validators_keys hnone h
  have hinj : ∀ a ∈ (records.map ValidatorRecord.type).dedup,
      ∀ b ∈ (records.map ValidatorRecord.type).dedup,
        registry.lookup .type a = registry.lookup .type b → a = b := by
    intro a ha b _ hsame
    -- every name was resolved, so both look-ups find the one type that has the names
    have hkey := (hmem _).mpr (List.mem_map_of_mem (List.mem_dedup.mp ha))
    obtain ⟨tid, -, htid⟩ := List.mem_map.mp hkey
    have hfirst := hnames.lookup_eq_some_iff.mp htid.symm
    have hsecond := hnames.lookup_eq_some_iff.mp (hsame.symm.trans htid.symm)
    exact Option.some.inj (hfirst.symm.trans hsecond)
  have hperm : (later.validated.map some).Perm
      ((records.map ValidatorRecord.type).dedup.map (registry.lookup .type)) := by
    refine (List.perm_ext_iff_of_nodup (hnodup.map (Option.some_injective _))
      ((List.nodup_dedup _).map_on hinj)).mpr ?_
    intro key
    simp only [hmem, List.mem_map, List.mem_dedup]
  simpa using hperm.length_eq

end Load

end ProgramImage
