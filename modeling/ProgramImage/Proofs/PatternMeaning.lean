import ProgramImage.Pattern.Match

/-!
# What patterns mean

A pattern says how a stretch of a text may look. The stretch lies between two places, each given by
the number of characters before it. Written out without groups and counts, a pattern means the
same.

## Main definitions

* `Repeats` puts stretches one after the other.
* `Pattern.Matches` says which stretches of a text a pattern matches.
* `PlainPattern.Matches` says the same of plain patterns.
* `Pattern.IsBounded` says that no repetition has more at least than at most.

## Main statements

* `Pattern.plain_matches_iff` says that writing out a pattern keeps its meaning.
-/

namespace ProgramImage

/-! ### Repeated stretches -/

/-- A number of stretches, one after the other. -/
inductive Repeats (R : Nat → Nat → Prop) : Nat → Nat → Nat → Prop
  | zero (i : Nat) : Repeats R 0 i i
  | succ {n i k j : Nat} (hfirst : R i k) (hrest : Repeats R n k j) : Repeats R (n + 1) i j

namespace Repeats

variable {R S : Nat → Nat → Prop} {m n i j k : Nat}

@[simp] theorem zero_iff : Repeats R 0 i j ↔ i = j := by
  constructor
  · rintro ⟨⟩
    rfl
  · rintro rfl
    exact .zero i

theorem succ_iff : Repeats R (n + 1) i j ↔ ∃ k, R i k ∧ Repeats R n k j := by
  constructor
  · rintro (_ | ⟨hfirst, hrest⟩)
    exact ⟨_, hfirst, hrest⟩
  · rintro ⟨k, hfirst, hrest⟩
    exact .succ hfirst hrest

@[simp] theorem one_iff : Repeats R 1 i j ↔ R i j := by
  simp [succ_iff]

theorem add_iff : Repeats R (m + n) i j ↔ ∃ k, Repeats R m i k ∧ Repeats R n k j := by
  induction m generalizing i with
  | zero => simp
  | succ m ih =>
    rw [Nat.succ_add]
    simp only [succ_iff, ih]
    constructor
    · rintro ⟨l, hfirst, k, hmid, hrest⟩
      exact ⟨k, ⟨l, hfirst, hmid⟩, hrest⟩
    · rintro ⟨k, ⟨l, hfirst, hmid⟩, hrest⟩
      exact ⟨l, hfirst, k, hmid, hrest⟩

theorem congr (h : ∀ i j, R i j ↔ S i j) : Repeats R n i j ↔ Repeats S n i j := by
  induction n generalizing i with
  | zero => simp
  | succ n ih => simp only [succ_iff, h, ih]

theorem le (hR : ∀ i j, R i j → i ≤ j) (h : Repeats R n i j) : i ≤ j := by
  induction h with
  | zero i => exact Nat.le_refl i
  | succ hfirst _ ih => exact Nat.le_trans (hR _ _ hfirst) ih

/-- Stretches that are all empty stay at their place. -/
theorem eq_of_empty (hR : ∀ i j, R i j → i = j) (h : Repeats R n i j) : i = j := by
  induction h with
  | zero i => rfl
  | succ hfirst _ ih => exact (hR _ _ hfirst).trans ih

/-- Once a stretch at a place is empty, it can be put there as often as needed. -/
theorem of_empty (h : R i i) (n : Nat) : Repeats R n i i := by
  induction n with
  | zero => exact .zero i
  | succ n ih => exact .succ h ih

/-- Stretches that get somewhere have a first one that does. -/
theorem exists_advance (hR : ∀ i j, R i j → i ≤ j) (h : Repeats R n i j) (hlt : i < j) :
    ∃ k m, i < k ∧ R i k ∧ Repeats R m k j := by
  induction h with
  | zero i => exact absurd hlt (Nat.lt_irrefl i)
  | @succ n i k j hfirst hrest ih =>
    by_cases hsame : i = k
    · subst hsame
      exact ih hlt
    · have hle := hR _ _ hfirst
      exact ⟨k, n, by omega, hfirst, hrest⟩

end Repeats

/-- One stretch or more, up to a number of them. -/
def RepeatsUpTo (R : Nat → Nat → Prop) (count i j : Nat) : Prop :=
  ∃ n, 1 ≤ n ∧ n ≤ count ∧ Repeats R n i j

namespace RepeatsUpTo

variable {R : Nat → Nat → Prop} {m n i j : Nat}

theorem one_iff : RepeatsUpTo R 1 i j ↔ R i j := by
  constructor
  · rintro ⟨n, hlow, hhigh, h⟩
    obtain rfl : n = 1 := by omega
    exact Repeats.one_iff.mp h
  · intro h
    exact ⟨1, Nat.le_refl 1, Nat.le_refl 1, Repeats.one_iff.mpr h⟩

/-- The number of stretches stays below a first part of the bound, or goes on behind it. -/
theorem add_iff : RepeatsUpTo R (m + n) i j ↔
    RepeatsUpTo R m i j ∨ ∃ k, Repeats R m i k ∧ RepeatsUpTo R n k j := by
  constructor
  · rintro ⟨count, hlow, hhigh, h⟩
    by_cases hm : count ≤ m
    · exact .inl ⟨count, hlow, hm, h⟩
    · obtain ⟨rest, rfl⟩ := Nat.exists_eq_add_of_le (Nat.le_of_not_le hm)
      obtain ⟨k, hfirst, hrest⟩ := Repeats.add_iff.mp h
      exact .inr ⟨k, hfirst, rest, by omega, by omega, hrest⟩
  · rintro (⟨count, hlow, hhigh, h⟩ | ⟨k, hfirst, count, hlow, hhigh, h⟩)
    · exact ⟨count, hlow, by omega, h⟩
    · exact ⟨m + count, by omega, by omega, Repeats.add_iff.mpr ⟨k, hfirst, h⟩⟩

end RepeatsUpTo

/-! ### Patterns -/

/-- The place behind the first characters of a text. -/
def Place.inText (text : List Char) (i : Nat) : Place :=
  ⟨if i = 0 then none else text[i - 1]?, text[i]?⟩

namespace Pattern

/-- The stretches of a text that a pattern matches, from a place to another one. -/
def Matches (text : List Char) : Pattern → Nat → Nat → Prop
  | empty, i, j => i = j
  | one set, i, j => j = i + 1 ∧ ∃ c, text[i]? = some c ∧ set.contains c = true
  | assertion condition, i, j =>
    i = j ∧ condition.holds (Place.inText text i).before (Place.inText text i).after = true
  | seq first second, i, j => ∃ k, first.Matches text i k ∧ second.Matches text k j
  | alt first second, i, j => first.Matches text i j ∨ second.Matches text i j
  | group _ body, i, j => body.Matches text i j
  | repeated body least most _, i, j =>
    ∃ n, least ≤ n ∧ (∀ m, most = some m → n ≤ m) ∧ Repeats (body.Matches text) n i j

/-- No repetition has more at least than at most. -/
def IsBounded : Pattern → Prop
  | empty | one _ | assertion _ => True
  | seq first second | alt first second => first.IsBounded ∧ second.IsBounded
  | group _ body => body.IsBounded
  | repeated body least most _ => body.IsBounded ∧ ∀ m, most = some m → least ≤ m

/-- A pattern without characters matches empty stretches only. -/
theorem eq_of_isEmptyOnly {text : List Char} : ∀ {pattern : Pattern} {i j : Nat},
    pattern.isEmptyOnly = true → pattern.Matches text i j → i = j
  | empty, _, _, _, h => h
  | one _, _, _, hempty, _ => by cases hempty
  | assertion _, _, _, _, h => h.1
  | seq first second, _, _, hempty, ⟨k, hfirst, hsecond⟩ => by
    obtain ⟨hemptyFirst, hemptySecond⟩ := Bool.and_eq_true_iff.mp hempty
    exact (eq_of_isEmptyOnly hemptyFirst hfirst).trans (eq_of_isEmptyOnly hemptySecond hsecond)
  | alt first second, _, _, hempty, h => by
    obtain ⟨hemptyFirst, hemptySecond⟩ := Bool.and_eq_true_iff.mp hempty
    rcases h with hfirst | hsecond
    · exact eq_of_isEmptyOnly hemptyFirst hfirst
    · exact eq_of_isEmptyOnly hemptySecond hsecond
  | group _ body, _, _, hempty, h => by
    have hbody : body.isEmptyOnly = true := hempty
    exact eq_of_isEmptyOnly hbody h
  | repeated body least most _, i, j, hempty, ⟨n, _, hmost, h⟩ => by
    rcases Bool.or_eq_true_iff.mp hempty with hbody | hnone
    · exact h.eq_of_empty fun _ _ => eq_of_isEmptyOnly hbody
    · have hn : n = 0 := Nat.le_zero.mp (hmost 0 (eq_of_beq hnone))
      rw [hn] at h
      exact Repeats.zero_iff.mp h

end Pattern

namespace PlainPattern

/-- The stretches of a text that a plain pattern matches. Of a chain they are those of its first
    copies, or those of all its copies where the whole of it is asked for. -/
def Matches (text : List Char) : Bool → PlainPattern → Nat → Nat → Prop
  | _, empty, i, j => i = j
  | _, one set, i, j => j = i + 1 ∧ ∃ c, text[i]? = some c ∧ set.contains c = true
  | _, assertion condition, i, j =>
    i = j ∧ condition.holds (Place.inText text i).before (Place.inText text i).after = true
  | _, seq first second, i, j => ∃ k, first.Matches text false i k ∧ second.Matches text false k j
  | _, alt first second, i, j => first.Matches text false i j ∨ second.Matches text false i j
  | _, plus body, i, j => ∃ n, 1 ≤ n ∧ Repeats (body.Matches text false) n i j
  | isWhole, chain first second, i, j =>
    (isWhole = false ∧ first.Matches text false i j) ∨
      ∃ k, first.Matches text true i k ∧ second.Matches text isWhole k j

variable {text : List Char} {i j : Nat} {body : PlainPattern}

/-- Whether copies of a part are linked, of which the first ones may match without the rest. -/
def isChain : PlainPattern → Bool
  | chain _ _ => true
  | _ => false

/-- What is no chain matches only as a whole. -/
theorem matches_of_not_isChain : ∀ {pattern : PlainPattern}, pattern.isChain = false →
    ∀ isWhole, pattern.Matches text isWhole i j ↔ pattern.Matches text false i j
  | empty, _, _ | one _, _, _ | assertion _, _, _ | seq _ _, _, _ | alt _ _, _, _ | plus _, _, _ =>
    Iff.rfl
  | chain _ _, h, _ => by cases h

/-! ### Rows and copies -/

/-- A stretch that patterns match one after the other. -/
def MatchesRow (text : List Char) : List PlainPattern → Nat → Nat → Prop
  | [], i, j => i = j
  | pattern :: rest, i, j => ∃ k, pattern.Matches text false i k ∧ MatchesRow text rest k j

theorem matchesRow_append {front back : List PlainPattern} :
    MatchesRow text (front ++ back) i j ↔
      ∃ k, MatchesRow text front i k ∧ MatchesRow text back k j := by
  induction front generalizing i with
  | nil => simp [MatchesRow]
  | cons pattern front ih =>
    simp only [List.cons_append, MatchesRow, ih]
    constructor
    · rintro ⟨l, hpattern, k, hfront, hback⟩
      exact ⟨k, ⟨l, hpattern, hfront⟩, hback⟩
    · rintro ⟨k, ⟨l, hpattern, hfront⟩, hback⟩
      exact ⟨l, hpattern, k, hfront, hback⟩

@[simp] theorem matchesRow_singleton {pattern : PlainPattern} :
    MatchesRow text [pattern] i j ↔ pattern.Matches text false i j := by
  simp [MatchesRow]

theorem rowFrom_matches {fuel : Nat} {patterns : List PlainPattern}
    (hfuel : patterns.length ≤ fuel) :
    (rowFrom fuel patterns).Matches text false i j ↔ MatchesRow text patterns i j := by
  induction fuel generalizing patterns i j with
  | zero =>
    obtain rfl := List.length_eq_zero_iff.mp (Nat.le_zero.mp hfuel)
    exact Iff.rfl
  | succ fuel ih =>
    match patterns with
    | [] => exact Iff.rfl
    | [pattern] => exact matchesRow_singleton.symm
    | first :: second :: rest =>
      -- both halves are shorter
      have hhalf : (first :: second :: rest).length / 2 ≤ fuel := by
        simp only [List.length_cons] at hfuel ⊢
        omega
      have hfront := List.length_take_le ((first :: second :: rest).length / 2)
        (first :: second :: rest)
      have hback : ((first :: second :: rest).drop
          ((first :: second :: rest).length / 2)).length ≤ fuel := by
        rw [List.length_drop]
        simp only [List.length_cons] at hfuel ⊢
        omega
      simp only [rowFrom, Matches, ih (Nat.le_trans hfront hhalf), ih hback]
      rw [← matchesRow_append, List.take_append_drop]

theorem row_matches (patterns : List PlainPattern) :
    (row patterns).Matches text false i j ↔ MatchesRow text patterns i j :=
  rowFrom_matches (Nat.le_refl _)

theorem row_isChain {patterns : List PlainPattern}
    (h : ∀ pattern ∈ patterns, pattern.isChain = false) : (row patterns).isChain = false := by
  match patterns with
  | [] => rfl
  | [pattern] => exact h pattern (List.mem_singleton_self _)
  | _ :: _ :: _ => rfl

theorem half_lt {fuel count : Nat} (h : count < Nat.pow 2 (fuel + 1)) :
    count / 2 < Nat.pow 2 fuel := by
  have hpow : Nat.pow 2 (fuel + 1) = Nat.pow 2 fuel * 2 := rfl
  omega

/-- Copies in a sequence match as many stretches as there are copies. -/
theorem copies_seq_matches {fuel count : Nat} (hcount : count < Nat.pow 2 fuel) :
    (copies seq body fuel count).Matches text false i j ↔
      Repeats (body.Matches text false) count i j := by
  induction fuel generalizing count i j with
  | zero =>
    obtain rfl : count = 0 := Nat.lt_one_iff.mp hcount
    exact Repeats.zero_iff.symm
  | succ fuel ih =>
    unfold copies
    by_cases hzero : count = 0
    · subst hzero
      exact Repeats.zero_iff.symm
    · by_cases hone : count = 1
      · subst hone
        exact Repeats.one_iff.symm
      · have hhalf := half_lt hcount
        rw [if_neg hzero, if_neg hone]
        dsimp only
        by_cases heven : count % 2 = 0
        · have hrepeats := Repeats.add_iff (R := body.Matches text false) (m := count / 2)
            (n := count / 2) (i := i) (j := j)
          rw [show count / 2 + count / 2 = count by omega] at hrepeats
          simp [heven, Matches, ih hhalf, hrepeats]
        · have hrepeats := Repeats.add_iff (R := body.Matches text false) (m := 1)
            (n := count / 2 + count / 2) (i := i) (j := j)
          rw [show 1 + (count / 2 + count / 2) = count by omega] at hrepeats
          simp [heven, Matches, ih hhalf, hrepeats, Repeats.add_iff]

/-- All copies in a chain match as many stretches as there are copies. The first ones match any
    smaller number. -/
theorem copies_chain_matches (hbody : body.isChain = false) {fuel count : Nat}
    (hcount : count < Nat.pow 2 fuel) :
    ((copies chain body fuel count).Matches text true i j ↔
      Repeats (body.Matches text false) count i j) ∧
    (1 ≤ count → ((copies chain body fuel count).Matches text false i j ↔
      RepeatsUpTo (body.Matches text false) count i j)) := by
  induction fuel generalizing count i j with
  | zero =>
    obtain rfl : count = 0 := Nat.lt_one_iff.mp hcount
    exact ⟨Repeats.zero_iff.symm, fun h => absurd h (by omega)⟩
  | succ fuel ih =>
    have hwhole : ∀ i j, body.Matches text true i j ↔ body.Matches text false i j :=
      fun _ _ => matches_of_not_isChain hbody true
    unfold copies
    by_cases hzero : count = 0
    · subst hzero
      exact ⟨Repeats.zero_iff.symm, fun h => absurd h (by omega)⟩
    · by_cases hone : count = 1
      · subst hone
        exact ⟨(hwhole i j).trans Repeats.one_iff.symm, fun _ => RepeatsUpTo.one_iff.symm⟩
      · have hhalf := half_lt hcount
        have hall := fun i j => (ih (i := i) (j := j) hhalf).1
        have hsome := fun i j => (ih (i := i) (j := j) hhalf).2 (by omega)
        rw [if_neg hzero, if_neg hone]
        dsimp only
        by_cases heven : count % 2 = 0
        · have hsplit : count / 2 + count / 2 = count := by omega
          rw [if_pos heven]
          constructor
          · have hrepeats := Repeats.add_iff (R := body.Matches text false) (m := count / 2)
              (n := count / 2) (i := i) (j := j)
            rw [hsplit] at hrepeats
            simp [Matches, hall, hrepeats]
          · intro _
            have hupTo := RepeatsUpTo.add_iff (R := body.Matches text false) (m := count / 2)
              (n := count / 2) (i := i) (j := j)
            rw [hsplit] at hupTo
            simp [Matches, hall, hsome, hupTo]
        · have hsplit : 1 + (count / 2 + count / 2) = count := by omega
          rw [if_neg heven]
          constructor
          · have hrepeats := Repeats.add_iff (R := body.Matches text false) (m := 1)
              (n := count / 2 + count / 2) (i := i) (j := j)
            rw [hsplit] at hrepeats
            simp [Matches, hall, hwhole, hrepeats, Repeats.add_iff]
          · intro _
            have hupTo := RepeatsUpTo.add_iff (R := body.Matches text false) (m := 1)
              (n := count / 2 + count / 2) (i := i) (j := j)
            rw [hsplit] at hupTo
            simp [Matches, hall, hsome, hwhole, hupTo, RepeatsUpTo.one_iff, RepeatsUpTo.add_iff]

theorem times_matches (count : Nat) :
    (times body count).Matches text false i j ↔ Repeats (body.Matches text false) count i j :=
  copies_seq_matches Nat.lt_log2_self

theorem upTo_matches (hbody : body.isChain = false) {count : Nat} (hcount : 1 ≤ count) :
    (upTo body count).Matches text false i j ↔
      i = j ∨ RepeatsUpTo (body.Matches text false) count i j := by
  unfold upTo
  simp only [Matches]
  rw [(copies_chain_matches hbody Nat.lt_log2_self).2 hcount, or_comm]

theorem repeated_isChain (hbody : body.isChain = false) (least : Nat) (most : Option Nat) :
    (body.repeated least most).isChain = false := by
  have htimes : ∀ count, (times body count).isChain = false := by
    intro count
    unfold times copies
    split
    · rfl
    · split
      · exact hbody
      · dsimp only
        split <;> rfl
  unfold repeated
  cases most with
  | none =>
    dsimp only
    split
    · rfl
    · split <;> rfl
  | some most =>
    dsimp only
    split
    · exact htimes least
    · split <;> rfl

theorem repeated_none_matches (least : Nat) :
    (body.repeated least none).Matches text false i j ↔
      ∃ n, least ≤ n ∧ Repeats (body.Matches text false) n i j := by
  unfold repeated
  dsimp only
  by_cases hzero : least = 0
  · subst hzero
    rw [if_pos rfl]
    simp only [Matches]
    constructor
    · rintro (⟨n, -, h⟩ | rfl)
      · exact ⟨n, Nat.zero_le n, h⟩
      · exact ⟨0, Nat.le_refl 0, .zero i⟩
    · rintro ⟨n, -, h⟩
      cases n with
      | zero => exact .inr (Repeats.zero_iff.mp h)
      | succ n => exact .inl ⟨n + 1, by omega, h⟩
  · by_cases hone : least = 1
    · subst hone
      rw [if_neg hzero, if_pos rfl]
      exact Iff.rfl
    · rw [if_neg hzero, if_neg hone]
      simp only [Matches, times_matches]
      constructor
      · rintro ⟨k, hfirst, n, hn, hrest⟩
        exact ⟨least - 1 + n, by omega, Repeats.add_iff.mpr ⟨k, hfirst, hrest⟩⟩
      · rintro ⟨n, hn, h⟩
        rw [show n = least - 1 + (n - (least - 1)) by omega] at h
        obtain ⟨k, hfirst, hrest⟩ := Repeats.add_iff.mp h
        exact ⟨k, hfirst, _, by omega, hrest⟩

theorem repeated_some_matches (hbody : body.isChain = false) {least most : Nat}
    (hle : least ≤ most) :
    (body.repeated least (some most)).Matches text false i j ↔
      ∃ n, least ≤ n ∧ n ≤ most ∧ Repeats (body.Matches text false) n i j := by
  unfold repeated
  dsimp only
  by_cases hsame : most ≤ least
  · obtain rfl : most = least := Nat.le_antisymm hsame hle
    rw [if_pos hsame, times_matches]
    constructor
    · intro h
      exact ⟨most, Nat.le_refl most, Nat.le_refl most, h⟩
    · rintro ⟨n, hlow, hhigh, h⟩
      rwa [Nat.le_antisymm hhigh hlow] at h
  · rw [if_neg hsame]
    by_cases hzero : least = 0
    · subst hzero
      rw [if_pos rfl, upTo_matches hbody (by omega)]
      constructor
      · rintro (rfl | ⟨n, -, hhigh, h⟩)
        · exact ⟨0, Nat.le_refl 0, Nat.zero_le most, .zero i⟩
        · exact ⟨n, Nat.zero_le n, hhigh, h⟩
      · rintro ⟨n, -, hhigh, h⟩
        cases n with
        | zero => exact .inl (Repeats.zero_iff.mp h)
        | succ n => exact .inr ⟨n + 1, by omega, hhigh, h⟩
    · rw [if_neg hzero]
      simp only [Matches, times_matches, upTo_matches hbody (show 1 ≤ most - least by omega)]
      constructor
      · rintro ⟨k, hfirst, rfl | ⟨n, hlow, hhigh, hrest⟩⟩
        · exact ⟨least, Nat.le_refl least, hle, hfirst⟩
        · exact ⟨least + n, by omega, by omega, Repeats.add_iff.mpr ⟨k, hfirst, hrest⟩⟩
      · rintro ⟨n, hlow, hhigh, h⟩
        rw [show n = least + (n - least) by omega] at h
        obtain ⟨k, hfirst, hrest⟩ := Repeats.add_iff.mp h
        refine ⟨k, hfirst, ?_⟩
        by_cases hexact : n - least = 0
        · rw [hexact] at hrest
          exact .inl (Repeats.zero_iff.mp hrest)
        · exact .inr ⟨n - least, by omega, by omega, hrest⟩

/-- A repetition matches as many stretches as its bounds allow. -/
theorem repeated_matches (hbody : body.isChain = false) {least : Nat} {most : Option Nat}
    (hbounds : ∀ m, most = some m → least ≤ m) :
    (body.repeated least most).Matches text false i j ↔
      ∃ n, least ≤ n ∧ (∀ m, most = some m → n ≤ m) ∧
        Repeats (body.Matches text false) n i j := by
  cases most with
  | none => simp [repeated_none_matches]
  | some most => simp [repeated_some_matches hbody (hbounds most rfl)]

/-- A repetition of the empty stretch takes place once at most, without a difference. -/
theorem repeats_empty {R : Nat → Nat → Prop} (hR : ∀ i j, R i j → i = j) {least : Nat}
    {most : Option Nat} (hbounds : ∀ m, most = some m → least ≤ m) :
    (∃ n, min least 1 ≤ n ∧ (∀ m, some (min (most.getD 1) 1) = some m → n ≤ m) ∧
        Repeats R n i j) ↔
      ∃ n, least ≤ n ∧ (∀ m, most = some m → n ≤ m) ∧ Repeats R n i j := by
  constructor
  · rintro ⟨n, hlow, hhigh, h⟩
    obtain rfl := h.eq_of_empty hR
    have hn := hhigh _ rfl
    refine ⟨least, Nat.le_refl least, hbounds, ?_⟩
    cases least with
    | zero => exact .zero i
    | succ least =>
      obtain rfl : n = 1 := by omega
      exact .of_empty (Repeats.one_iff.mp h) _
  · rintro ⟨n, hlow, hhigh, h⟩
    obtain rfl := h.eq_of_empty hR
    refine ⟨min n 1, by omega, ?_, ?_⟩
    · intro m hm
      obtain rfl := Option.some.inj hm
      cases most with
      | none => exact Nat.min_le_right n 1
      | some most =>
        have := hhigh most rfl
        rw [Option.getD_some]
        omega
    · cases n with
      | zero => exact .zero i
      | succ n =>
        obtain ⟨k, hfirst, -⟩ := Repeats.succ_iff.mp h
        obtain rfl := hR _ _ hfirst
        rw [Nat.min_eq_right (Nat.le_add_left 1 n), Repeats.one_iff]
        exact hfirst

end PlainPattern

namespace Pattern

open PlainPattern (MatchesRow)

variable {text : List Char} {i j : Nat}

theorem plainItems_isChain : ∀ {pattern : Pattern}, ∀ item ∈ pattern.plainItems,
    item.isChain = false
  | empty, _, h => by cases h
  | one _, _, h => by rw [List.mem_singleton.mp h]; rfl
  | assertion _, _, h => by rw [List.mem_singleton.mp h]; rfl
  | seq first second, item, h => by
    rcases List.mem_append.mp h with hfirst | hsecond
    · exact plainItems_isChain item hfirst
    · exact plainItems_isChain item hsecond
  | alt _ _, _, h => by rw [List.mem_singleton.mp h]; rfl
  | group _ body, item, h => by
    have hitem : item ∈ body.plainItems := h
    exact plainItems_isChain item hitem
  | repeated body least most _, item, h => by
    rw [List.mem_singleton.mp h]
    have hbody : (PlainPattern.row body.plainItems).isChain = false :=
      PlainPattern.row_isChain plainItems_isChain
    split
    · exact PlainPattern.repeated_isChain hbody _ _
    · exact PlainPattern.repeated_isChain hbody _ _

/-- The items of a pattern match, one after the other, what the pattern matches. -/
theorem plainItems_matches : ∀ {pattern : Pattern}, pattern.IsBounded → ∀ {i j : Nat},
    MatchesRow text pattern.plainItems i j ↔ pattern.Matches text i j
  | empty, _, _, _ => Iff.rfl
  | one _, _, _, _ => PlainPattern.matchesRow_singleton
  | assertion _, _, _, _ => PlainPattern.matchesRow_singleton
  | seq first second, ⟨hfirst, hsecond⟩, i, j => by
    simp only [plainItems, PlainPattern.matchesRow_append, plainItems_matches hfirst,
      plainItems_matches hsecond, Matches]
  | alt first second, ⟨hfirst, hsecond⟩, i, j => by
    simp only [plainItems, PlainPattern.matchesRow_singleton, PlainPattern.Matches,
      PlainPattern.row_matches, plainItems_matches hfirst, plainItems_matches hsecond, Matches]
  | group _ body, hgroup, _, _ => by
    have hbody : body.IsBounded := hgroup
    exact plainItems_matches hbody
  | repeated body least most _, ⟨hbody, hbounds⟩, i, j => by
    have hrow : ∀ i j, (PlainPattern.row body.plainItems).Matches text false i j ↔
        body.Matches text i j := by
      intro i j
      rw [PlainPattern.row_matches, plainItems_matches hbody]
    have hchain : (PlainPattern.row body.plainItems).isChain = false :=
      PlainPattern.row_isChain plainItems_isChain
    unfold plainItems Matches
    rw [PlainPattern.matchesRow_singleton]
    by_cases hempty : body.isEmptyOnly = true
    · rw [if_pos hempty, PlainPattern.repeated_matches hchain (by
        intro m hm
        obtain rfl := Option.some.inj hm
        cases most with
        | none => exact Nat.min_le_right least 1
        | some most =>
          have hle := hbounds most rfl
          rw [Option.getD_some]
          omega)]
      simp only [Repeats.congr hrow]
      exact PlainPattern.repeats_empty (fun i j => eq_of_isEmptyOnly hempty) hbounds
    · rw [if_neg hempty, PlainPattern.repeated_matches hchain hbounds]
      simp only [Repeats.congr hrow]

/-- Written out without groups and counts, a pattern matches the same stretches. -/
theorem plain_matches_iff {pattern : Pattern} (h : pattern.IsBounded) :
    pattern.plain.Matches text false i j ↔ pattern.Matches text i j := by
  rw [plain, PlainPattern.row_matches, plainItems_matches h]

end Pattern

end ProgramImage
