import Mathlib.Data.List.Induction
import ProgramImage.Flavors

/-!
# Mappings as ordered lists

A mapping is a list of keys and values in the order of its keys. What stands under a key does
not depend on the other keys, and entries under different keys may be put in either order: the
list is the same, since the order of the keys decides where an entry goes.

## Main definitions

* `LawfulKeyOrder` says that a relation on keys is a strict order in which any two different
  keys are comparable.
* `Keyed.IsSorted` says that a mapping stands in the order of its keys.

## Main statements

* `Keyed.get?_insert` says what is found after an entry is put into a mapping.
* `Keyed.insert_comm` and `Keyed.insert_free_comm` put two entries in the other order.
* `Keyed.IsSorted.insert` and `Keyed.mem_keys_insert` say what the keys are afterwards.
* `Keyed.ofList_perm` and `Keyed.ofList_of_isSorted` say what a mapping from given entries is.
-/

namespace ProgramImage

/-- An order of keys in which one of two different keys stands before the other. -/
class LawfulKeyOrder (κ : Type) [KeyOrder κ] : Prop where
  asymm : ∀ a b : κ, KeyOrder.before a b = true → KeyOrder.before b a = false
  trans : ∀ a b c : κ, KeyOrder.before a b = true → KeyOrder.before b c = true →
    KeyOrder.before a c = true
  total : ∀ a b : κ, a ≠ b → KeyOrder.before a b = false → KeyOrder.before b a = true

theorem Index.before_iff {space : Namespace} {a b : Index space} :
    KeyOrder.before a b = true ↔ a.value < b.value :=
  decide_eq_true_iff

instance {space : Namespace} : LawfulKeyOrder (Index space) where
  asymm a b h := by
    rw [Index.before_iff] at h
    rw [← Bool.not_eq_true, Index.before_iff]
    omega
  trans a b c hab hbc := by
    rw [Index.before_iff] at hab hbc ⊢
    omega
  total a b hne h := by
    rw [← Bool.not_eq_true, Index.before_iff] at h
    rw [Index.before_iff]
    have hvalue : a.value ≠ b.value := fun heq => hne (congrArg Index.mk heq)
    omega

theorem EntryTypes.before_iff {a b : EntryTypes} :
    KeyOrder.before a b = true ↔
      a.key.value < b.key.value ∨ a.key = b.key ∧ a.value.value < b.value.value := by
  have hbefore : KeyOrder.before a b =
    (KeyOrder.before a.key b.key || (a.key == b.key && KeyOrder.before a.value b.value)) := rfl
  rw [hbefore, Bool.or_eq_true, Bool.and_eq_true, Index.before_iff, Index.before_iff, beq_iff_eq]

instance : LawfulKeyOrder EntryTypes where
  asymm a b h := by
    rw [EntryTypes.before_iff] at h
    rw [← Bool.not_eq_true, EntryTypes.before_iff]
    rcases h with hkey | ⟨hkey, hvalue⟩
    · rintro (hback | ⟨hback, -⟩)
      · omega
      · rw [hback] at hkey
        omega
    · rw [hkey]
      omega
  trans a b c hab hbc := by
    rw [EntryTypes.before_iff] at hab hbc ⊢
    rcases hab with hab | ⟨hab, habValue⟩
    · rcases hbc with hbc | ⟨hbc, -⟩
      · exact .inl (Nat.lt_trans hab hbc)
      · exact .inl (hbc ▸ hab)
    · rw [hab]
      rcases hbc with hbc | ⟨hbc, hbcValue⟩
      · exact .inl hbc
      · exact .inr ⟨hbc, Nat.lt_trans habValue hbcValue⟩
  total a b hne h := by
    rw [← Bool.not_eq_true, EntryTypes.before_iff] at h
    rw [EntryTypes.before_iff]
    obtain ⟨aKey, aValue⟩ := a
    obtain ⟨bKey, bValue⟩ := b
    by_cases hkey : aKey = bKey
    · subst hkey
      have hvalue : aValue.value ≠ bValue.value := by
        intro heq
        exact hne (congrArg _ (congrArg Index.mk heq))
      simp only [Nat.lt_irrefl, true_and, false_or] at h ⊢
      omega
    · have hvalue : aKey.value ≠ bKey.value := fun heq => hkey (congrArg Index.mk heq)
      dsimp only at h ⊢
      omega

/-! ### The order of texts -/

theorem charsBefore_cons_iff {a b : Char} {as bs : List Char} :
    charsBefore (a :: as) (b :: bs) = true ↔
      a.toNat < b.toNat ∨ a = b ∧ charsBefore as bs = true := by
  simp [charsBefore]

theorem charsBefore_asymm : ∀ {as bs : List Char}, charsBefore as bs = true →
    charsBefore bs as = false
  | [], [], h => by cases h
  | [], _ :: _, _ => rfl
  | _ :: _, [], h => by cases h
  | a :: as, b :: bs, h => by
    rw [← Bool.not_eq_true, charsBefore_cons_iff]
    rcases charsBefore_cons_iff.mp h with hlt | ⟨rfl, hrest⟩
    · rintro (hback | ⟨rfl, -⟩) <;> omega
    · have hback := charsBefore_asymm hrest
      simp [hback]

theorem charsBefore_trans : ∀ {as bs cs : List Char}, charsBefore as bs = true →
    charsBefore bs cs = true → charsBefore as cs = true
  | _, _, [], _, h => by simp [charsBefore] at h
  | [], _, _ :: _, _, _ => rfl
  | _ :: _, [], _ :: _, h, _ => by cases h
  | a :: as, b :: bs, c :: cs, hab, hbc => by
    rw [charsBefore_cons_iff] at hab hbc ⊢
    rcases hab with hab | ⟨rfl, hab⟩
    · rcases hbc with hbc | ⟨rfl, -⟩
      · exact .inl (Nat.lt_trans hab hbc)
      · exact .inl hab
    · rcases hbc with hbc | ⟨rfl, hbc⟩
      · exact .inl hbc
      · exact .inr ⟨rfl, charsBefore_trans hab hbc⟩

theorem charsBefore_total : ∀ {as bs : List Char}, as ≠ bs → charsBefore as bs = false →
    charsBefore bs as = true
  | [], [], hne, _ => absurd rfl hne
  | [], _ :: _, _, h => by cases h
  | _ :: _, [], _, _ => rfl
  | a :: as, b :: bs, hne, h => by
    rw [← Bool.not_eq_true, charsBefore_cons_iff] at h
    rw [charsBefore_cons_iff]
    by_cases hhead : a = b
    · subst hhead
      have hrest : as ≠ bs := fun heq => hne (congrArg _ heq)
      have hnot : charsBefore as bs = false := by simpa using h
      exact .inr ⟨rfl, charsBefore_total hrest hnot⟩
    · have hcode : a.toNat ≠ b.toNat := fun heq => hhead (Char.toNat_inj.mp heq)
      omega

instance : LawfulKeyOrder String where
  asymm _ _ h := charsBefore_asymm h
  trans _ _ _ hab hbc := charsBefore_trans hab hbc
  total _ _ hne h := charsBefore_total (fun heq => hne (String.toList_inj.mp heq)) h
namespace Keyed

variable {κ α : Type} [DecidableEq κ] [KeyOrder κ]

theorem mem_insert {key : κ} {value : α} {mapping : List (κ × α)} {entry : κ × α}
    (h : entry ∈ insert key value mapping) : entry = (key, value) ∨ entry ∈ mapping := by
  induction mapping with
  | nil => exact .inl (List.mem_singleton.mp h)
  | cons first rest ih =>
    obtain ⟨firstKey, firstValue⟩ := first
    rw [insert] at h
    split at h
    · rcases List.mem_cons.mp h with hnew | hold
      · exact .inl hnew
      · exact .inr (List.mem_cons_of_mem _ hold)
    · split at h
      · exact List.mem_cons.mp h
      · rcases List.mem_cons.mp h with hfirst | hrest
        · exact .inr (hfirst ▸ List.mem_cons_self)
        · rcases ih hrest with hnew | hold
          · exact .inl hnew
          · exact .inr (List.mem_cons_of_mem _ hold)

omit [KeyOrder κ] in
theorem get?_cons (key other : κ) (value : α) (rest : List (κ × α)) :
    get? key ((other, value) :: rest) = if other = key then some value else get? key rest := by
  unfold get?
  rw [List.find?_cons]
  by_cases hkey : other = key
  · simp [hkey]
  · simp [hkey]

/-- A key has the value that was put under it, and every other key what it had. -/
theorem get?_insert (key other : κ) (value : α) (mapping : List (κ × α)) :
    get? other (insert key value mapping) =
      if key = other then some value else get? other mapping := by
  induction mapping with
  | nil => exact get?_cons other key value []
  | cons first rest ih =>
    obtain ⟨firstKey, firstValue⟩ := first
    rw [insert, get?_cons]
    split
    · next hsame =>
      subst hsame
      rw [get?_cons]
      split <;> rfl
    · next hne =>
      split
      · rw [get?_cons, get?_cons]
      · rw [get?_cons, ih]
        by_cases hfirst : firstKey = other
        · have hkey : key ≠ other := fun hkey => hne (hkey.trans hfirst.symm)
          rw [if_pos hfirst, if_neg hkey, if_pos hfirst]
        · rw [if_neg hfirst, if_neg hfirst]

/-! ### Entries in either order -/

theorem insert_same (a : κ) (x y : α) (rest : List (κ × α)) :
    insert a x ((a, y) :: rest) = (a, x) :: rest := by
  rw [insert, if_pos rfl]

section Order

variable [LawfulKeyOrder κ] {a b : κ}

omit [DecidableEq κ] in
theorem ne_of_before (h : KeyOrder.before a b = true) : a ≠ b := by
  rintro rfl
  have hnot := LawfulKeyOrder.asymm a a h
  rw [h] at hnot
  cases hnot

theorem insert_of_before (h : KeyOrder.before a b = true) (x y : α) (rest : List (κ × α)) :
    insert a x ((b, y) :: rest) = (a, x) :: (b, y) :: rest := by
  rw [insert, if_neg (ne_of_before h), if_pos h]

theorem insert_of_after (h : KeyOrder.before b a = true) (x y : α) (rest : List (κ × α)) :
    insert a x ((b, y) :: rest) = (b, y) :: insert a x rest := by
  have hnot : ¬KeyOrder.before a b = true := by
    rw [LawfulKeyOrder.asymm b a h]
    exact Bool.false_ne_true
  rw [insert, if_neg (ne_of_before h).symm, if_neg hnot]

theorem insert_comm_of_before (h : KeyOrder.before a b = true) (x y : α)
    (mapping : List (κ × α)) :
    insert a x (insert b y mapping) = insert b y (insert a x mapping) := by
  induction mapping with
  | nil =>
    change insert a x [(b, y)] = insert b y [(a, x)]
    rw [insert_of_before h, insert_of_after h]
    rfl
  | cons first rest ih =>
    obtain ⟨c, z⟩ := first
    by_cases hsame : a = c
    · subst hsame
      rw [insert_of_after h, insert_same, insert_same, insert_of_after h]
    · cases hbefore : KeyOrder.before a c with
      | true =>
        -- whichever of `b` and `c` is first afterwards, the entry of `a` goes in front of it
        have hinsert : insert b y ((c, z) :: rest) =
            if b = c then (b, y) :: rest
            else if KeyOrder.before b c then (b, y) :: (c, z) :: rest
            else (c, z) :: insert b y rest := rfl
        rw [insert_of_before hbefore, insert_of_after h, hinsert]
        split
        · exact insert_of_before h x y rest
        · split
          · exact insert_of_before h x y _
          · exact insert_of_before hbefore x z _
      | false =>
        -- both entries go behind the one of `c`
        have hafter := LawfulKeyOrder.total a c hsame hbefore
        have hafterBoth := LawfulKeyOrder.trans c a b hafter h
        rw [insert_of_after hafterBoth, insert_of_after hafter, insert_of_after hafter,
          insert_of_after hafterBoth, ih]

/-- Entries under different keys may be put into a mapping in either order. -/
theorem insert_comm (hne : a ≠ b) (x y : α) (mapping : List (κ × α)) :
    insert a x (insert b y mapping) = insert b y (insert a x mapping) := by
  cases hbefore : KeyOrder.before a b with
  | true => exact insert_comm_of_before hbefore x y mapping
  | false =>
    have hafter := LawfulKeyOrder.total a b hne hbefore
    exact (insert_comm_of_before hafter y x mapping).symm

/-- Entries that are put under free keys one after the other may be put there in the other
    order. -/
theorem insert_free_comm {x : α} {mapping : List (κ × α)} (ha : get? a mapping = none)
    (hb : get? b (insert a x mapping) = none) (y : α) :
    get? b mapping = none ∧ get? a (insert b y mapping) = none ∧
      insert a x (insert b y mapping) = insert b y (insert a x mapping) := by
  rw [get?_insert] at hb
  -- the first entry would be found under the key of the second
  have hne : a ≠ b := by
    intro heq
    rw [if_pos heq] at hb
    cases hb
  rw [if_neg hne] at hb
  refine ⟨hb, ?_, insert_comm hne x y mapping⟩
  rw [get?_insert, if_neg (Ne.symm hne), ha]

/-! ### Sorted mappings -/

/-- The keys of a mapping stand in their order, so none of them stands there twice. -/
def IsSorted (mapping : List (κ × α)) : Prop :=
  mapping.Pairwise fun first second => KeyOrder.before first.1 second.1 = true

theorem IsSorted.insert {key : κ} {mapping : List (κ × α)} (h : IsSorted mapping) (value : α) :
    IsSorted (insert key value mapping) := by
  induction mapping with
  | nil => exact List.pairwise_singleton _ _
  | cons first rest ih =>
    obtain ⟨other, old⟩ := first
    obtain ⟨hfirst, hrest⟩ := List.pairwise_cons.mp h
    rw [Keyed.insert]
    split
    · next hsame =>
      subst hsame
      exact List.pairwise_cons.mpr ⟨hfirst, hrest⟩
    · next hne =>
      split
      · next hbefore =>
        refine List.pairwise_cons.mpr ⟨?_, h⟩
        intro entry hentry
        rcases List.mem_cons.mp hentry with rfl | hlater
        · exact hbefore
        · exact LawfulKeyOrder.trans key other entry.1 hbefore (hfirst entry hlater)
      · next hnot =>
        refine List.pairwise_cons.mpr ⟨?_, ih hrest⟩
        intro entry hentry
        rcases mem_insert hentry with rfl | hold
        · exact LawfulKeyOrder.total key other hne (by simpa using hnot)
        · exact hfirst entry hold

omit [DecidableEq κ] in
theorem IsSorted.nodup_keys {mapping : List (κ × α)} (h : IsSorted mapping) :
    (mapping.map Prod.fst).Nodup := by
  refine List.pairwise_map.mpr (h.imp ?_)
  intro first second hbefore
  exact ne_of_before hbefore

end Order

theorem mem_keys_insert {key other : κ} {value : α} {mapping : List (κ × α)} :
    other ∈ (insert key value mapping).map Prod.fst ↔
      other ∈ mapping.map Prod.fst ∨ other = key := by
  induction mapping with
  | nil => simp [insert]
  | cons first rest ih =>
    obtain ⟨firstKey, old⟩ := first
    rw [insert]
    split
    · next hsame =>
      subst hsame
      simp [or_comm]
    · split
      · simp [or_comm]
      · rw [List.map_cons, List.mem_cons, ih, List.map_cons, List.mem_cons, or_assoc]

/-! ### Mappings from entries -/

theorem ofList_concat (entries : List (κ × α)) (entry : κ × α) :
    ofList (entries ++ [entry]) = insert entry.1 entry.2 (ofList entries) :=
  List.foldl_append

/-- Under a key that is free an entry is put without replacing another one. -/
theorem insert_perm {key : κ} {value : α} {mapping : List (κ × α)}
    (hfree : key ∉ mapping.map Prod.fst) :
    (insert key value mapping).Perm ((key, value) :: mapping) := by
  induction mapping with
  | nil => exact .refl _
  | cons first rest ih =>
    obtain ⟨other, old⟩ := first
    obtain ⟨hne, hrest⟩ := List.ne_and_not_mem_of_not_mem_cons hfree
    rw [insert, if_neg hne]
    split
    · exact .refl _
    · exact ((ih hrest).cons _).trans (.swap _ _ _)

/-- Entries under different keys are all in the mapping that is made from them. -/
theorem ofList_perm {entries : List (κ × α)} (hnodup : (entries.map Prod.fst).Nodup) :
    (ofList entries).Perm entries := by
  induction entries using List.reverseRecOn with
  | nil => exact .refl _
  | append_singleton entries entry ih =>
    rw [List.map_append, List.nodup_append] at hnodup
    obtain ⟨hentries, -, hfresh⟩ := hnodup
    have hperm := ih hentries
    have hfree : entry.1 ∉ (ofList entries).map Prod.fst := by
      rw [(hperm.map Prod.fst).mem_iff]
      intro hmem
      exact hfresh _ hmem _ (List.mem_singleton.mpr rfl) rfl
    rw [ofList_concat]
    exact (insert_perm hfree).trans ((hperm.cons _).trans (List.perm_append_singleton _ _).symm)

theorem mem_of_mem_ofList {entries : List (κ × α)} {entry : κ × α} (h : entry ∈ ofList entries) :
    entry ∈ entries := by
  induction entries using List.reverseRecOn with
  | nil => exact h
  | append_singleton entries last ih =>
    rw [ofList_concat] at h
    rw [List.mem_append, List.mem_singleton]
    rcases mem_insert h with hlast | hearlier
    · exact .inr hlast
    · exact .inl (ih hearlier)

section Order

variable [LawfulKeyOrder κ]

theorem isSorted_ofList (entries : List (κ × α)) : IsSorted (ofList entries) := by
  induction entries using List.reverseRecOn with
  | nil => exact .nil
  | append_singleton entries entry ih =>
    rw [ofList_concat]
    exact ih.insert entry.2

/-- A mapping is made from its own entries. -/
theorem ofList_of_isSorted {mapping : List (κ × α)} (h : IsSorted mapping) :
    ofList mapping = mapping := by
  refine (ofList_perm h.nodup_keys).eq_of_pairwise ?_ (isSorted_ofList mapping) h
  intro first second _ _ hbefore hafter
  rw [LawfulKeyOrder.asymm _ _ hbefore] at hafter
  cases hafter

end Order

end Keyed

end ProgramImage
