import ProgramImage.Proofs.KeyedOrder
import ProgramImage.Proofs.Outcome

/-!
# Records with keys of their own

Records are resolved one after the other, and what each gives is put into a mapping under a key
that has to be free. So one record at most is behind an entry, and the records may be gone through
in any order.

## Main definitions

* `KeyedRun` resolves records one after the other, each to an entry under a key of its own.

## Main statements

* `KeyedRun.get?_iff` finds the one record behind an entry.
* `KeyedRun.perm` goes through the records in another order.
* `KeyedRun.foldlM_eq_ok_iff` sees a fold over a larger state as such a run.
-/

namespace ProgramImage

/-- Records are resolved one after the other, and what they give is put under its own key, which
    has to be free. -/
inductive KeyedRun {ρ ε κ α : Type} [DecidableEq κ] [KeyOrder κ] (resolve : ρ → Except ε α)
    (key : α → κ) : List (κ × α) → List ρ → List (κ × α) → Prop
  | nil (mapping : List (κ × α)) : KeyedRun resolve key mapping [] mapping
  | cons {mapping later : List (κ × α)} {record : ρ} {rest : List ρ} {item : α}
      (hitem : resolve record = .ok item) (hfree : Keyed.get? (key item) mapping = none)
      (hrest : KeyedRun resolve key (Keyed.insert (key item) item mapping) rest later) :
      KeyedRun resolve key mapping (record :: rest) later

namespace KeyedRun

variable {ρ ε κ α : Type} [DecidableEq κ] [KeyOrder κ] {resolve : ρ → Except ε α} {key : α → κ}
  {mapping later : List (κ × α)} {records : List ρ} {record : ρ} {item : α} {k : κ}

theorem nil_iff : KeyedRun resolve key mapping [] later ↔ mapping = later := by
  constructor
  · rintro ⟨⟩
    rfl
  · rintro rfl
    exact .nil mapping

theorem cons_iff : KeyedRun resolve key mapping (record :: records) later ↔
    ∃ item, resolve record = .ok item ∧ Keyed.get? (key item) mapping = none ∧
      KeyedRun resolve key (Keyed.insert (key item) item mapping) records later := by
  constructor
  · rintro (_ | ⟨hitem, hfree, hrest⟩)
    exact ⟨_, hitem, hfree, hrest⟩
  · rintro ⟨item, hitem, hfree, hrest⟩
    exact .cons hitem hfree hrest

/-- What a mapping has under a key it keeps, since no record finds this key free. -/
theorem keeps (run : KeyedRun resolve key mapping records later)
    (h : Keyed.get? k mapping = some item) : Keyed.get? k later = some item := by
  induction run with
  | nil => exact h
  | cons hitem hfree _ ih =>
    refine ih ?_
    rw [Keyed.get?_insert]
    split
    · next hkey =>
      rw [hkey, h] at hfree
      cases hfree
    · exact h

/-- Every record of a run is resolved, and what it gives is found under its key. -/
theorem registered (run : KeyedRun resolve key mapping records later) (hrecord : record ∈ records) :
    ∃ item, resolve record = .ok item ∧ Keyed.get? (key item) later = some item := by
  induction run with
  | nil => cases hrecord
  | @cons mapping later first rest item hitem hfree hrest ih =>
    rcases List.mem_cons.mp hrecord with rfl | hmem
    · refine ⟨item, hitem, hrest.keeps ?_⟩
      rw [Keyed.get?_insert, if_pos rfl]
    · exact ih hmem

/-- What is found under a key was there before, or it is what the one record with this key
    gives. -/
theorem get?_iff (run : KeyedRun resolve key mapping records later) {key? : ρ → Option κ}
    (hkey : ∀ record item, resolve record = .ok item → key? record = some (key item)) :
    Keyed.get? k later = some item ↔
      (Keyed.get? k mapping = some item ∧ records.filter (key? · = some k) = []) ∨
      (Keyed.get? k mapping = none ∧
        ∃ record, records.filter (key? · = some k) = [record] ∧ resolve record = .ok item) := by
  induction run with
  | nil => simp
  | @cons mapping later first rest found hfound hfree hrest ih =>
    rw [ih, Keyed.get?_insert, List.filter_cons, hkey first found hfound]
    by_cases hsame : key found = k
    · -- the first record has taken the key, so no other one is behind the entry
      subst hsame
      rw [if_pos rfl, if_pos (decide_eq_true rfl), hfree]
      constructor
      · rintro (⟨hentry, hnone⟩ | ⟨habsent, -⟩)
        · cases hentry
          exact .inr ⟨rfl, first, by rw [hnone], hfound⟩
        · cases habsent
      · rintro (⟨habsent, -⟩ | ⟨-, record, hfilter, hrecord⟩)
        · cases habsent
        · obtain ⟨rfl, hnone⟩ := List.cons.inj hfilter
          rw [hfound] at hrecord
          cases hrecord
          exact .inl ⟨rfl, hnone⟩
    · simp [hsame]

theorem append_iff {others : List ρ} :
    KeyedRun resolve key mapping (records ++ others) later ↔
      ∃ mid, KeyedRun resolve key mapping records mid ∧ KeyedRun resolve key mid others later := by
  induction records generalizing mapping with
  | nil => simp [nil_iff]
  | cons record records ih =>
    rw [List.cons_append, cons_iff]
    simp only [cons_iff, ih]
    constructor
    · rintro ⟨item, hitem, hfree, mid, hrecords, hothers⟩
      exact ⟨mid, ⟨item, hitem, hfree, hrecords⟩, hothers⟩
    · rintro ⟨mid, ⟨item, hitem, hfree, hrecords⟩, hothers⟩
      exact ⟨item, hitem, hfree, mid, hrecords, hothers⟩

/-- Since every record has a key of its own, a run may go through the records in any order. -/
theorem perm [LawfulKeyOrder κ] {others : List ρ}
    (run : KeyedRun resolve key mapping records later) (hperm : records.Perm others) :
    KeyedRun resolve key mapping others later := by
  induction hperm generalizing mapping with
  | nil => exact run
  | cons record _ ih =>
    cases run with
    | cons hitem hfree hrest => exact .cons hitem hfree (ih hrest)
  | swap first second rest =>
    obtain _ | ⟨hsecond, hfree, hnext⟩ := run
    obtain _ | ⟨hfirst, hfreeFirst, hrest⟩ := hnext
    obtain ⟨hfirstFree, hsecondFree, hsame⟩ := Keyed.insert_free_comm hfree hfreeFirst _
    refine .cons hfirst hfirstFree (.cons hsecond hsecondFree ?_)
    rw [hsame]
    exact hrest
  | trans _ _ ihFirst ihSecond => exact ihSecond (ihFirst run)

/-- A run may go on with a further record when this is resolved, and no record of the run has its
    key. -/
theorem exists_snoc_iff (run : KeyedRun resolve key [] records later) {key? : ρ → Option κ}
    (hkey : ∀ record item, resolve record = .ok item → key? record = some (key item))
    (record : ρ) :
    (∃ further, KeyedRun resolve key [] (records ++ [record]) further) ↔
      (∃ item, resolve record = .ok item) ∧ ∀ other ∈ records, key? other ≠ key? record := by
  constructor
  · rintro ⟨further, hrun⟩
    obtain ⟨mid, hrecords, hlast⟩ := append_iff.mp hrun
    cases hlast with
    | @cons _ _ _ _ item hitem hfree _ =>
      refine ⟨⟨item, hitem⟩, ?_⟩
      intro other hother hsame
      obtain ⟨found, hfound, hentry⟩ := hrecords.registered hother
      rw [hkey _ _ hfound, hkey _ _ hitem] at hsame
      rw [Option.some.inj hsame, hfree] at hentry
      cases hentry
  · rintro ⟨⟨item, hitem⟩, hfresh⟩
    have hfree : Keyed.get? (key item) later = none := by
      refine Option.eq_none_iff_forall_ne_some.mpr ?_
      intro found hfound
      rcases (run.get?_iff hkey).mp hfound with ⟨hold, -⟩ | ⟨-, other, hother, -⟩
      · cases hold
      · have hmem : other ∈ records.filter (key? · = some (key item)) := by
          rw [hother]
          exact List.mem_singleton_self other
        obtain ⟨hrecord, hsame⟩ := List.mem_filter.mp hmem
        refine hfresh other hrecord ?_
        rw [hkey _ _ hitem, of_decide_eq_true hsame]
    exact ⟨_, append_iff.mpr ⟨later, run, .cons hitem hfree (.nil _)⟩⟩

/-- A fold that puts what its records give into a part of its state is a run on this part.
    `view` reads the part and `put` replaces it. -/
theorem foldlM_eq_ok_iff {σ δ : Type} {step : σ → ρ → Except δ σ} (view : σ → List (κ × α))
    (put : σ → List (κ × α) → σ) (hview : ∀ state mapping, view (put state mapping) = mapping)
    (hput : ∀ state, put state (view state) = state)
    (hlast : ∀ state old new, put (put state old) new = put state new)
    (hstep : ∀ state record next, step state record = .ok next ↔
      ∃ item, resolve record = .ok item ∧ Keyed.get? (key item) (view state) = none ∧
        next = put state (Keyed.insert (key item) item (view state)))
    {state next : σ} :
    records.foldlM step state = .ok next ↔
      KeyedRun resolve key (view state) records (view next) ∧ put state (view next) = next := by
  induction records generalizing state with
  | nil =>
    rw [nil_iff]
    constructor
    · rintro ⟨⟩
      exact ⟨rfl, hput next⟩
    · rintro ⟨hkept, hsame⟩
      rw [← hkept, hput] at hsame
      exact congrArg Except.ok hsame
  | cons record records ih =>
    rw [List.foldlM_cons, Except.bind_eq_ok, cons_iff]
    constructor
    · rintro ⟨mid, hmid, hrest⟩
      obtain ⟨item, hitem, hfree, rfl⟩ := (hstep state record mid).mp hmid
      obtain ⟨hrun, hnext⟩ := ih.mp hrest
      rw [hview] at hrun
      rw [hlast] at hnext
      exact ⟨⟨item, hitem, hfree, hrun⟩, hnext⟩
    · rintro ⟨⟨item, hitem, hfree, hrun⟩, hnext⟩
      refine ⟨_, (hstep state record _).mpr ⟨item, hitem, hfree, rfl⟩, ih.mpr ?_⟩
      rw [hview, hlast]
      exact ⟨hrun, hnext⟩

end KeyedRun

end ProgramImage
