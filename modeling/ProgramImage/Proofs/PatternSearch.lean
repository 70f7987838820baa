import ProgramImage.Proofs.PatternMeaning

/-!
# The search for a match

The matches that are under way at a place of a text are told by where they can end. At each place
the search ends those that end there and moves on the others, and a text is accepted when a stretch
of it is matched.

## Main definitions

* `Progress.Continues` says where the matches under way can end.
* `Arrival.Shows` says what the search has to find out at a place.
* `Progress.FindsFrom` says that some match ends in the rest of a text.

## Main statements

* `Progress.step_shows`: at each place the search finds out just that.
* `Pattern.matchesIn_iff`: a text is accepted when some stretch of it is matched.
-/

namespace ProgramImage

variable {text : List Char} {i j k : Nat}

/-! ### Bounds of stretches -/

theorem Repeats.bounds {R : Nat → Nat → Prop} {length n : Nat}
    (hR : ∀ i j, R i j → i ≤ j ∧ (i ≤ length → j ≤ length)) (h : Repeats R n i j) :
    i ≤ j ∧ (i ≤ length → j ≤ length) := by
  induction h with
  | zero i => exact ⟨Nat.le_refl i, id⟩
  | @succ n i k j hfirst _ ih =>
    have hstep := hR _ _ hfirst
    exact ⟨by omega, by omega⟩

namespace PlainPattern

/-- A stretch goes forwards and stays in the text. -/
theorem Matches.bounds {pattern : PlainPattern} {isWhole : Bool}
    (h : pattern.Matches text isWhole i j) : i ≤ j ∧ (i ≤ text.length → j ≤ text.length) := by
  induction pattern generalizing isWhole i j with
  | empty =>
    obtain rfl := h
    exact ⟨Nat.le_refl i, id⟩
  | one set =>
    obtain ⟨rfl, c, hc, -⟩ := h
    obtain ⟨hlt, -⟩ := List.getElem?_eq_some_iff.mp hc
    exact ⟨Nat.le_succ i, fun _ => hlt⟩
  | assertion condition =>
    obtain ⟨rfl, -⟩ := h
    exact ⟨Nat.le_refl i, id⟩
  | seq first second ihFirst ihSecond =>
    obtain ⟨k, hfirst, hsecond⟩ := h
    have := ihFirst hfirst
    have := ihSecond hsecond
    omega
  | alt first second ihFirst ihSecond =>
    rcases h with hfirst | hsecond
    · exact ihFirst hfirst
    · exact ihSecond hsecond
  | plus body ih =>
    obtain ⟨n, -, h⟩ := h
    exact h.bounds fun _ _ => ih
  | chain first second ihFirst ihSecond =>
    rcases h with ⟨-, hfirst⟩ | ⟨k, hfirst, hsecond⟩
    · exact ihFirst hfirst
    · have := ihFirst hfirst
      have := ihSecond hsecond
      omega

/-- What all copies of a chain match is matched by some of them. -/
theorem Matches.ofWhole {pattern : PlainPattern} (h : pattern.Matches text true i j) :
    pattern.Matches text false i j := by
  induction pattern generalizing i with
  | chain first second _ ihSecond =>
    rcases h with ⟨hfalse, -⟩ | ⟨k, hfirst, hsecond⟩
    · cases hfalse
    · exact .inr ⟨k, hfirst, ihSecond hsecond⟩
  | _ => exact h

/-- A sequence of two stretches that starts and ends at one place consists of empty ones. -/
theorem exists_between_iff (text : List Char) (pattern : PlainPattern) (isWhole : Bool)
    {P : Nat → Prop} (hP : ∀ k, P k → i ≤ k) :
    (∃ k, P k ∧ pattern.Matches text isWhole k i) ↔ P i ∧ pattern.Matches text isWhole i i := by
  constructor
  · rintro ⟨k, hk, h⟩
    obtain rfl := Nat.le_antisymm (hP k hk) h.bounds.1
    exact ⟨hk, h⟩
  · rintro ⟨hi, h⟩
    exact ⟨i, hi, h⟩

theorem repeats_self_iff {body : PlainPattern} :
    (∃ n, 1 ≤ n ∧ Repeats (body.Matches text false) n i i) ↔ body.Matches text false i i := by
  constructor
  · rintro ⟨n, hn, h⟩
    obtain ⟨m, rfl⟩ := Nat.exists_eq_add_of_le' hn
    obtain ⟨k, hfirst, hrest⟩ := Repeats.succ_iff.mp h
    have hle := hrest.le fun _ _ h => h.bounds.1
    obtain rfl := Nat.le_antisymm hfirst.bounds.1 hle
    exact hfirst
  · intro h
    exact ⟨1, Nat.le_refl 1, Repeats.one_iff.mpr h⟩

/-- The empty stretches that a pattern matches, by one of its copies and by all of them. -/
theorem passes_iff (pattern : PlainPattern) (i : Nat) :
    (pattern.passes (Place.inText text i) = true ↔ pattern.Matches text false i i) ∧
      (pattern.passesWhole (Place.inText text i) = true ↔ pattern.Matches text true i i) := by
  induction pattern with
  | empty => simp [passes, passesWhole, Matches]
  | one set => simp [passes, passesWhole, Matches]
  | assertion condition => simp [passes, passesWhole, Matches]
  | seq first second ihFirst ihSecond =>
    have h := exists_between_iff text second false
      (P := fun k => first.Matches text false i k) fun _ h => h.bounds.1
    simp [passes, passesWhole, Matches, ihFirst.1, ihSecond.1, h]
  | alt first second ihFirst ihSecond =>
    simp [passes, passesWhole, Matches, ihFirst.1, ihSecond.1]
  | plus body ih => simp [passes, passesWhole, Matches, ih.1, repeats_self_iff]
  | chain first second ihFirst ihSecond =>
    have h := fun isWhole => exists_between_iff text second isWhole
      (P := fun k => first.Matches text true i k) fun _ h => h.bounds.1
    constructor
    · simp only [passes, ihFirst.1, Matches, h, true_and]
      constructor
      · exact .inl
      · rintro (hfirst | ⟨hfirst, -⟩)
        · exact hfirst
        · exact hfirst.ofWhole
    · simp [passesWhole, Matches, ihFirst.2, ihSecond.2, h]

end PlainPattern

/-! ### Matches under way -/

namespace Progress

/-- The pattern whose matches are under way. -/
def pattern : Progress → PlainPattern
  | idle pattern => pattern
  | read set => .one set
  | seq first second => .seq first.pattern second.pattern
  | alt first second => .alt first.pattern second.pattern
  | plus body => .plus body.pattern
  | chain first second => .chain first.pattern second.pattern

/-- The stretches by which the matches under way at a place can go on to their end. Of a chain they
    are those up to the end of any copy, or up to the end of all copies where the whole of it is
    asked for. -/
def Continues (text : List Char) : Bool → Progress → Nat → Nat → Prop
  | _, idle _, _, _ => False
  | _, read _, i, j => i = j
  | _, seq first second, i, j => second.Continues text false i j ∨
    ∃ k, first.Continues text false i k ∧ second.pattern.Matches text false k j
  | _, alt first second, i, j => first.Continues text false i j ∨ second.Continues text false i j
  | _, plus body, i, j => ∃ k, body.Continues text false i k ∧
    ∃ n, Repeats (body.pattern.Matches text false) n k j
  | isWhole, chain first second, i, j => (isWhole = false ∧ first.Continues text false i j) ∨
    second.Continues text isWhole i j ∨
    ∃ k, first.Continues text true i k ∧ second.pattern.Matches text isWhole k j

theorem Continues.bounds {progress : Progress} {isWhole : Bool}
    (h : progress.Continues text isWhole i j) : i ≤ j ∧ (i ≤ text.length → j ≤ text.length) := by
  induction progress generalizing isWhole i j with
  | idle pattern => exact h.elim
  | read set =>
    obtain rfl := h
    exact ⟨Nat.le_refl i, id⟩
  | seq first second ihFirst ihSecond =>
    rcases h with hsecond | ⟨k, hfirst, hsecond⟩
    · exact ihSecond hsecond
    · have := ihFirst hfirst
      have := hsecond.bounds
      omega
  | alt first second ihFirst ihSecond =>
    rcases h with hfirst | hsecond
    · exact ihFirst hfirst
    · exact ihSecond hsecond
  | plus body ih =>
    obtain ⟨k, hbody, n, hrest⟩ := h
    have := ih hbody
    have := hrest.bounds fun _ _ h => h.bounds
    omega
  | chain first second ihFirst ihSecond =>
    rcases h with ⟨-, hfirst⟩ | hsecond | ⟨k, hfirst, hsecond⟩
    · exact ihFirst hfirst
    · exact ihSecond hsecond
    · have := ihFirst hfirst
      have := hsecond.bounds
      omega

theorem passes_eq (place : Place) (progress : Progress) :
    progress.passes place = progress.pattern.passes place := by
  induction progress with
  | idle pattern => rfl
  | read set => rfl
  | seq first second ihFirst ihSecond =>
    simp [passes, pattern, PlainPattern.passes, ihFirst, ihSecond]
  | alt first second ihFirst ihSecond =>
    simp [passes, pattern, PlainPattern.passes, ihFirst, ihSecond]
  | plus body ih => simp [passes, pattern, PlainPattern.passes, ih]
  | chain first second ihFirst _ => simp [passes, pattern, PlainPattern.passes, ihFirst]

theorem passesWhole_eq (place : Place) (progress : Progress) :
    progress.passesWhole place = progress.pattern.passesWhole place := by
  induction progress with
  | chain first second ihFirst ihSecond =>
    simp [passesWhole, pattern, PlainPattern.passesWhole, ihFirst, ihSecond]
  | idle pattern => rfl
  | _ => exact passes_eq place _

/-- The matches that end at a place are those that go on by the empty stretch. -/
theorem endings_iff (progress : Progress) (i : Nat) :
    ((progress.endings (Place.inText text i)).1 = true ↔ progress.Continues text false i i) ∧
      ((progress.endings (Place.inText text i)).2 = true ↔ progress.Continues text true i i) := by
  induction progress with
  | idle pattern => simp [endings, Continues]
  | read set => simp [endings, Continues]
  | seq first second ihFirst ihSecond =>
    have h := PlainPattern.exists_between_iff text second.pattern false
      (P := fun k => first.Continues text false i k) fun _ h => h.bounds.1
    simp [endings, Continues, ihFirst.1, ihSecond.1, passes_eq, PlainPattern.passes_iff, h]
  | alt first second ihFirst ihSecond =>
    simp [endings, Continues, ihFirst.1, ihSecond.1]
  | plus body ih =>
    have h : (∃ k, body.Continues text false i k ∧
        ∃ n, Repeats (body.pattern.Matches text false) n k i) ↔
          body.Continues text false i i := by
      constructor
      · rintro ⟨k, hbody, n, hrest⟩
        have hle := hrest.le fun _ _ h => h.bounds.1
        obtain rfl := Nat.le_antisymm hbody.bounds.1 hle
        exact hbody
      · intro hbody
        exact ⟨i, hbody, 0, .zero i⟩
    simp [endings, Continues, ih.1, h]
  | chain first second ihFirst ihSecond =>
    have h := fun isWhole => PlainPattern.exists_between_iff text second.pattern isWhole
      (P := fun k => first.Continues text true i k) fun _ h => h.bounds.1
    constructor
    · simp only [endings, Continues, Bool.or_eq_true, Bool.and_eq_true, ihFirst, ihSecond,
        passes_eq, PlainPattern.passes_iff, h, true_and, or_assoc]
    · simp [endings, Continues, ihFirst.2, ihSecond.2, passesWhole_eq, PlainPattern.passes_iff, h]

/-! #### Putting parts together -/

variable {first second body : Progress} {isWhole : Bool}

@[simp] theorem inSequence_pattern :
    (first.inSequence second).pattern = .seq first.pattern second.pattern := by
  unfold inSequence
  split <;> rfl

@[simp] theorem inChoice_pattern :
    (first.inChoice second).pattern = .alt first.pattern second.pattern := by
  unfold inChoice
  split <;> rfl

@[simp] theorem inPlus_pattern : body.inPlus.pattern = .plus body.pattern := by
  unfold inPlus
  split <;> rfl

@[simp] theorem inChain_pattern :
    (first.inChain second).pattern = .chain first.pattern second.pattern := by
  unfold inChain
  split <;> rfl

theorem inSequence_continues :
    (first.inSequence second).Continues text isWhole i j ↔
      (seq first second).Continues text isWhole i j := by
  unfold inSequence
  split <;> simp [Continues]

theorem inChoice_continues :
    (first.inChoice second).Continues text isWhole i j ↔
      (alt first second).Continues text isWhole i j := by
  unfold inChoice
  split <;> simp [Continues]

theorem inPlus_continues :
    body.inPlus.Continues text isWhole i j ↔ (plus body).Continues text isWhole i j := by
  unfold inPlus
  split <;> simp [Continues]

theorem inChain_continues :
    (first.inChain second).Continues text isWhole i j ↔
      (chain first second).Continues text isWhole i j := by
  unfold inChain
  split <;> simp [Continues]

end Progress

/-! ### Arrival at a place -/

/-- What has to be found out at a place where some matches of a pattern are under way and another
    one begins if asked to: which of them end there, and how the others go on behind the next
    character. `underWay` says where those under way can end. -/
structure Arrival.Shows (text : List Char) (i : Nat) (pattern : PlainPattern)
    (underWay : Bool → Nat → Prop) (begins : Bool) (arrival : Arrival) : Prop where
  pattern_eq : arrival.progress.pattern = pattern
  ends_iff : arrival.ends = true ↔
    underWay false i ∨ (begins = true ∧ pattern.Matches text false i i)
  endsWhole_iff : arrival.endsWhole = true ↔
    underWay true i ∨ (begins = true ∧ pattern.Matches text true i i)
  continues_iff : ∀ isWhole j, i < j → (arrival.progress.Continues text isWhole (i + 1) j ↔
    underWay isWhole j ∨ (begins = true ∧ pattern.Matches text isWhole i j))

namespace Arrival

variable {pattern first second : PlainPattern} {underWay : Bool → Nat → Prop} {begins : Bool}
  {arrival : Arrival}

namespace Shows

/-- Behind the next character, the matches go on that do not end at the place itself. -/
theorem continues_behind_iff (h : Shows text i pattern underWay begins arrival) (isWhole : Bool)
    (j : Nat) : arrival.progress.Continues text isWhole (i + 1) j ↔
      i < j ∧ (underWay isWhole j ∨ (begins = true ∧ pattern.Matches text isWhole i j)) := by
  constructor
  · intro hcontinues
    have hlt : i < j := hcontinues.bounds.1
    exact ⟨hlt, (h.continues_iff isWhole j hlt).mp hcontinues⟩
  · rintro ⟨hlt, hmatch⟩
    exact (h.continues_iff isWhole j hlt).mpr hmatch

/-- An arrival only has to tell where matches can end. -/
theorem congr {underWay' : Bool → Nat → Prop} (h : Shows text i pattern underWay begins arrival)
    (hunderWay : ∀ isWhole j, underWay isWhole j ↔ underWay' isWhole j) :
    Shows text i pattern underWay' begins arrival where
  pattern_eq := h.pattern_eq
  ends_iff := by rw [h.ends_iff, hunderWay]
  endsWhole_iff := by rw [h.endsWhole_iff, hunderWay]
  continues_iff isWhole j hlt := by rw [h.continues_iff isWhole j hlt, hunderWay]

/-- Where no match begins, or only one that ends at once, none goes on. -/
theorem idle {ends : Bool}
    (hends : ∀ isWhole, ends = true ↔ begins = true ∧ pattern.Matches text isWhole i i)
    (hstill : ∀ isWhole j, begins = true → pattern.Matches text isWhole i j → i = j) :
    Shows text i pattern (fun _ _ => False) begins (.plain ends (.idle pattern)) where
  pattern_eq := rfl
  ends_iff := (hends false).trans (or_iff_right id).symm
  endsWhole_iff := (hends true).trans (or_iff_right id).symm
  continues_iff isWhole j hlt := by
    constructor
    · exact False.elim
    · rintro (hfalse | ⟨hbegins, hmatch⟩)
      · exact hfalse
      · exact absurd (hstill isWhole j hbegins hmatch) (Nat.ne_of_lt hlt)

/-- A set moves on a match that begins at a character of it. -/
theorem one (set : CharSet) (ends : Bool) :
    Shows text i (.one set) (fun _ j => ends = true ∧ i = j) begins
      (.plain ends (if begins && (Place.inText text i).reads set then .read set
        else .idle (.one set))) where
  pattern_eq := by
    unfold plain
    dsimp only
    split <;> rfl
  ends_iff := by simp [plain, PlainPattern.Matches]
  endsWhole_iff := by simp [plain, PlainPattern.Matches]
  continues_iff isWhole j hlt := by
    have hreads : (Place.inText text i).reads set = true ↔
        ∃ c, text[i]? = some c ∧ set.contains c = true := by
      simp [Place.reads, Place.inText, Option.any_eq_true]
    have hne : i ≠ j := Nat.ne_of_lt hlt
    unfold plain
    dsimp only
    by_cases h : begins = true ∧ (Place.inText text i).reads set = true
    · rw [if_pos (Bool.and_eq_true_iff.mpr h)]
      simp only [Progress.Continues, PlainPattern.Matches, hne, h.1, ← hreads, h.2, and_false,
        false_or, and_true, true_and]
      exact eq_comm
    · rw [if_neg (fun h' => h (Bool.and_eq_true_iff.mp h'))]
      simp only [Progress.Continues, PlainPattern.Matches, hne, ← hreads, and_false, false_or,
        false_iff]
      rintro ⟨hbegins, -, hset⟩
      exact h ⟨hbegins, hset⟩

/-- What begins where something ends begins here or behind the next character. -/
theorem here_or_behind_iff {P Q : Nat → Prop} (hP : ∀ k, P k → i ≤ k) :
    (P i ∧ Q i) ∨ (∃ k, (i < k ∧ P k) ∧ Q k) ↔ ∃ k, P k ∧ Q k := by
  constructor
  · rintro (⟨hi, hQ⟩ | ⟨k, ⟨-, hk⟩, hQ⟩)
    · exact ⟨i, hi, hQ⟩
    · exact ⟨k, hk, hQ⟩
  · rintro ⟨k, hk, hQ⟩
    rcases Nat.eq_or_lt_of_le (hP k hk) with rfl | hlt
    · exact .inl ⟨hk, hQ⟩
    · exact .inr ⟨k, ⟨hlt, hk⟩, hQ⟩

/-- A second part follows what is under way and what begins. -/
theorem follows_iff {P Q R : Nat → Prop} :
    (∃ k, (P k ∨ (begins = true ∧ Q k)) ∧ R k) ↔
      (∃ k, P k ∧ R k) ∨ (begins = true ∧ ∃ k, Q k ∧ R k) := by
  simp only [or_and_right, and_assoc, exists_or, exists_and_left]

/-- Matches of the second part of a sequence begin where matches of the first one end. -/
theorem seq {firstUnderWay secondUnderWay : Bool → Nat → Prop} {a : Arrival} {b : Bool → Arrival}
    (hfirst : Shows text i first firstUnderWay begins a)
    (hsecond : ∀ begins, Shows text i second secondUnderWay begins (b begins))
    (hle : ∀ isWhole k, firstUnderWay isWhole k → i ≤ k) :
    Shows text i (.seq first second)
      (fun _ j => secondUnderWay false j ∨
        ∃ k, firstUnderWay false k ∧ second.Matches text false k j)
      begins (a.seq b) := by
  have hstart : ∀ k, firstUnderWay false k ∨ (begins = true ∧ first.Matches text false i k) →
      i ≤ k := by
    rintro k (hunder | ⟨-, hmatch⟩)
    · exact hle false k hunder
    · exact hmatch.bounds.1
  have hends : (b a.ends).ends = true ↔
      (secondUnderWay false i ∨ ∃ k, firstUnderWay false k ∧ second.Matches text false k i) ∨
        (begins = true ∧ (PlainPattern.seq first second).Matches text false i i) := by
    rw [(hsecond a.ends).ends_iff, hfirst.ends_iff,
      ← PlainPattern.exists_between_iff text second false hstart, follows_iff, or_assoc]
    exact Iff.rfl
  refine ⟨?_, hends, hends, ?_⟩
  · simp [Arrival.seq, plain, hfirst.pattern_eq, (hsecond a.ends).pattern_eq]
  · intro isWhole j hlt
    simp only [Arrival.seq, plain, Progress.inSequence_continues, Progress.Continues,
      (hsecond a.ends).continues_iff false j hlt, hfirst.ends_iff, hfirst.continues_behind_iff,
      (hsecond a.ends).pattern_eq, PlainPattern.Matches]
    have hfollows := here_or_behind_iff (Q := fun k => second.Matches text false k j) hstart
    rw [or_assoc, hfollows, follows_iff, or_assoc]

theorem alt {firstUnderWay secondUnderWay : Bool → Nat → Prop} {a b : Arrival}
    (hfirst : Shows text i first firstUnderWay begins a)
    (hsecond : Shows text i second secondUnderWay begins b) :
    Shows text i (.alt first second)
      (fun _ j => firstUnderWay false j ∨ secondUnderWay false j) begins (a.alt b) := by
  have hends : (a.ends || b.ends) = true ↔
      (firstUnderWay false i ∨ secondUnderWay false i) ∨
        (begins = true ∧ (PlainPattern.alt first second).Matches text false i i) := by
    rw [Bool.or_eq_true, hfirst.ends_iff, hsecond.ends_iff, PlainPattern.Matches, and_or_left]
    exact or_or_or_comm
  refine ⟨?_, hends, hends, ?_⟩
  · simp [Arrival.alt, plain, hfirst.pattern_eq, hsecond.pattern_eq]
  · intro isWhole j hlt
    simp only [Arrival.alt, plain, Progress.inChoice_continues, Progress.Continues,
      hfirst.continues_iff false j hlt, hsecond.continues_iff false j hlt, PlainPattern.Matches,
      and_or_left]
    exact or_or_or_comm

/-- Within a repetition, a stretch begins with the repetition and where another one ends. -/
theorem plus {goesOn : Bool} {a : Arrival} (h : Shows text i pattern underWay goesOn a)
    (hgoesOn : goesOn = true ↔ begins = true ∨ underWay false i)
    (hle : ∀ isWhole k, underWay isWhole k → i ≤ k) :
    Shows text i (.plus pattern)
      (fun _ j => ∃ k, underWay false k ∧ ∃ n, Repeats (pattern.Matches text false) n k j)
      begins a.plus := by
  have hforwards : ∀ i j, pattern.Matches text false i j → i ≤ j := fun _ _ h => h.bounds.1
  have hends : a.ends = true ↔
      (∃ k, underWay false k ∧ ∃ n, Repeats (pattern.Matches text false) n k i) ∨
        (begins = true ∧ (PlainPattern.plus pattern).Matches text false i i) := by
    rw [h.ends_iff, hgoesOn, PlainPattern.Matches, PlainPattern.repeats_self_iff]
    constructor
    · rintro (hunder | ⟨hbegins | hunder, hempty⟩)
      · exact .inl ⟨i, hunder, 0, .zero i⟩
      · exact .inr ⟨hbegins, hempty⟩
      · exact .inl ⟨i, hunder, 0, .zero i⟩
    · rintro (⟨k, hunder, n, hrest⟩ | ⟨hbegins, hempty⟩)
      · obtain rfl := Nat.le_antisymm (hle false k hunder) (hrest.le hforwards)
        exact .inl hunder
      · exact .inr ⟨.inl hbegins, hempty⟩
  refine ⟨?_, hends, hends, ?_⟩
  · simp [Arrival.plus, plain, h.pattern_eq]
  · intro isWhole j hlt
    simp only [Arrival.plus, plain, Progress.inPlus_continues, Progress.Continues,
      h.continues_behind_iff, h.pattern_eq, hgoesOn, PlainPattern.Matches]
    constructor
    · rintro ⟨k, ⟨-, hunder | ⟨hbegins | hunder, hbehind⟩⟩, n, hrest⟩
      · exact .inl ⟨k, hunder, n, hrest⟩
      · exact .inr ⟨hbegins, n + 1, by omega, .succ hbehind hrest⟩
      · exact .inl ⟨i, hunder, n + 1, .succ hbehind hrest⟩
    · -- from here on, the first stretch that is not empty is the one that goes on
      have hadvance : ∀ n, (begins = true ∨ underWay false i) →
          Repeats (pattern.Matches text false) n i j →
          ∃ k, (i < k ∧ (underWay false k ∨
              ((begins = true ∨ underWay false i) ∧ pattern.Matches text false i k))) ∧
            ∃ n, Repeats (pattern.Matches text false) n k j := by
        intro n hstart hrest
        obtain ⟨k, m, hk, hfirst, hrest⟩ := hrest.exists_advance hforwards hlt
        exact ⟨k, ⟨hk, .inr ⟨hstart, hfirst⟩⟩, m, hrest⟩
      rintro (⟨k, hunder, n, hrest⟩ | ⟨hbegins, n, -, hrest⟩)
      · rcases Nat.eq_or_lt_of_le (hle false k hunder) with rfl | hk
        · exact hadvance n (.inr hunder) hrest
        · exact ⟨k, ⟨hk, .inl hunder⟩, n, hrest⟩
      · exact hadvance n (.inl hbegins) hrest

/-- The second part of a chain begins where all copies of the first one have been matched. -/
theorem chain {firstUnderWay secondUnderWay : Bool → Nat → Prop} {a : Arrival}
    {b : Bool → Arrival} (hfirst : Shows text i first firstUnderWay begins a)
    (hsecond : ∀ begins, Shows text i second secondUnderWay begins (b begins))
    (hle : ∀ isWhole k, firstUnderWay isWhole k → i ≤ k) :
    Shows text i (.chain first second)
      (fun isWhole j => (isWhole = false ∧ firstUnderWay false j) ∨ secondUnderWay isWhole j ∨
        ∃ k, firstUnderWay true k ∧ second.Matches text isWhole k j)
      begins (a.chain b) := by
  have hstart : ∀ k, firstUnderWay true k ∨ (begins = true ∧ first.Matches text true i k) →
      i ≤ k := by
    rintro k (hunder | ⟨-, hmatch⟩)
    · exact hle true k hunder
    · exact hmatch.bounds.1
  -- the second part begins where all of the first one has been matched, not where some has
  have hwhole := fun isWhole => PlainPattern.exists_between_iff text second isWhole hstart
  refine ⟨?_, ?_, ?_, ?_⟩
  · simp [Arrival.chain, hfirst.pattern_eq, (hsecond a.endsWhole).pattern_eq]
  · simp only [Arrival.chain, Bool.or_eq_true, hfirst.ends_iff, (hsecond a.endsWhole).ends_iff,
      hfirst.endsWhole_iff, ← hwhole, follows_iff, PlainPattern.Matches, true_and, and_or_left]
    exact ⟨by grind, by grind⟩
  · simp only [Arrival.chain, (hsecond a.endsWhole).endsWhole_iff, hfirst.endsWhole_iff, ← hwhole,
      follows_iff, PlainPattern.Matches, Bool.true_eq_false, false_and, false_or, or_assoc]
  · intro isWhole j hlt
    simp only [Arrival.chain, Progress.inChain_continues, Progress.Continues,
      hfirst.continues_iff false j hlt, (hsecond a.endsWhole).continues_iff isWhole j hlt,
      hfirst.endsWhole_iff, hfirst.continues_behind_iff, (hsecond a.endsWhole).pattern_eq,
      PlainPattern.Matches]
    have hfollows := here_or_behind_iff (Q := fun k => second.Matches text isWhole k j) hstart
    rw [or_assoc, hfollows, follows_iff]
    grind

end Shows

end Arrival

/-! ### The search -/

namespace Progress

theorem start_false (place : Place) (pattern : PlainPattern) :
    start place pattern false = .plain false (idle pattern) := by
  cases pattern <;> rfl

/-- It is enough to look at a match that does begin. -/
theorem start_shows_of_true {pattern : PlainPattern}
    (h : Arrival.Shows text i pattern (fun _ _ => False) true
      (start (Place.inText text i) pattern true)) (begins : Bool) :
    Arrival.Shows text i pattern (fun _ _ => False) begins
      (start (Place.inText text i) pattern begins) := by
  cases begins with
  | false =>
    rw [start_false]
    exact .idle (by simp) (by simp)
  | true => exact h

theorem start_true_shows (pattern : PlainPattern) :
    Arrival.Shows text i pattern (fun _ _ => False) true
      (start (Place.inText text i) pattern true) := by
  induction pattern with
  | empty => exact .idle (by simp [PlainPattern.Matches]) fun _ _ _ hmatch => hmatch
  | one set => exact (Arrival.Shows.one set false).congr (by simp)
  | assertion condition =>
    exact .idle (by simp [PlainPattern.Matches]) fun _ _ _ hmatch => hmatch.1
  | seq first second ihFirst ihSecond =>
    exact (Arrival.Shows.seq ihFirst (start_shows_of_true ihSecond)
      fun _ _ => False.elim).congr (by simp)
  | alt first second ihFirst ihSecond => exact (ihFirst.alt ihSecond).congr (by simp)
  | plus body ih => exact (ih.plus (by simp) fun _ _ => False.elim).congr (by simp)
  | chain first second ihFirst ihSecond =>
    exact (Arrival.Shows.chain ihFirst (start_shows_of_true ihSecond)
      fun _ _ => False.elim).congr (by simp)

/-- At each place the search finds out which matches end there and how the others go on. -/
theorem step_shows (text : List Char) (i : Nat) (progress : Progress) (begins : Bool) :
    Arrival.Shows text i progress.pattern (fun isWhole j => progress.Continues text isWhole i j)
      begins (progress.step (Place.inText text i) begins) := by
  induction progress generalizing begins with
  | idle pattern => exact start_shows_of_true (start_true_shows pattern) begins
  | read set => exact (Arrival.Shows.one set true).congr (by simp [Continues])
  | seq first second ihFirst ihSecond =>
    exact .seq (ihFirst begins) ihSecond fun _ _ h => h.bounds.1
  | alt first second ihFirst ihSecond => exact .alt (ihFirst begins) (ihSecond begins)
  | plus body ih =>
    refine .plus (ih (begins || (body.endings (Place.inText text i)).1)) ?_
      fun _ _ h => h.bounds.1
    rw [Bool.or_eq_true, (endings_iff body i).1]
  | chain first second ihFirst ihSecond =>
    exact .chain (ihFirst begins) ihSecond fun _ _ h => h.bounds.1

/-- From a place on some match ends, be it one that is under way or one that begins there or
    later. -/
def FindsFrom (text : List Char) (progress : Progress) (i : Nat) : Prop :=
  (∃ k, progress.Continues text false i k) ∨
    ∃ j k, i ≤ j ∧ j ≤ text.length ∧ progress.pattern.Matches text false j k

/-- At the last place no match goes on. -/
theorem findsFrom_length_iff (progress : Progress) :
    progress.FindsFrom text text.length ↔
      (progress.step (Place.inText text text.length) true).ends = true := by
  rw [(step_shows text text.length progress true).ends_iff]
  constructor
  · rintro (⟨k, hgoes⟩ | ⟨j, k, hij, hj, hbegins⟩)
    · have hbounds := hgoes.bounds
      obtain rfl : k = text.length := by omega
      exact .inl hgoes
    · obtain rfl : j = text.length := Nat.le_antisymm hj hij
      have hbounds := hbegins.bounds
      obtain rfl : k = text.length := by omega
      exact .inr ⟨rfl, hbegins⟩
  · rintro (hgoes | ⟨-, hbegins⟩)
    · exact .inl ⟨_, hgoes⟩
    · exact .inr ⟨_, _, Nat.le_refl _, Nat.le_refl _, hbegins⟩

/-- Before the last place a match ends at once or is found behind the next character. -/
theorem findsFrom_iff_step (hi : i < text.length) (progress : Progress) :
    progress.FindsFrom text i ↔
      (progress.step (Place.inText text i) true).ends = true ∨
        (progress.step (Place.inText text i) true).progress.FindsFrom text (i + 1) := by
  have hstep := step_shows text i progress true
  unfold FindsFrom
  rw [hstep.ends_iff, hstep.pattern_eq]
  simp only [hstep.continues_behind_iff, true_and]
  constructor
  · rintro (⟨k, hgoes⟩ | ⟨j, k, hij, hj, hbegins⟩)
    · rcases Nat.eq_or_lt_of_le hgoes.bounds.1 with rfl | hk
      · exact .inl (.inl hgoes)
      · exact .inr (.inl ⟨k, hk, .inl hgoes⟩)
    · rcases Nat.eq_or_lt_of_le hij with rfl | hlater
      · rcases Nat.eq_or_lt_of_le hbegins.bounds.1 with rfl | hk
        · exact .inl (.inr hbegins)
        · exact .inr (.inl ⟨k, hk, .inr hbegins⟩)
      · exact .inr (.inr ⟨j, k, hlater, hj, hbegins⟩)
  · rintro ((hgoes | hbegins) | ⟨k, -, hgoes | hbegins⟩ | ⟨j, k, hij, hj, hbegins⟩)
    · exact .inl ⟨i, hgoes⟩
    · exact .inr ⟨i, i, Nat.le_refl i, Nat.le_of_lt hi, hbegins⟩
    · exact .inl ⟨k, hgoes⟩
    · exact .inr ⟨i, k, Nat.le_refl i, Nat.le_of_lt hi, hbegins⟩
    · exact .inr ⟨j, k, by omega, hj, hbegins⟩

/-- The search goes through the rest of the text and finds out whether some match ends there. -/
theorem endsIn_iff {rest : List Char} (hrest : text.drop i = rest) (hi : i ≤ text.length)
    (progress : Progress) :
    progress.endsIn (Place.inText text i).before rest = true ↔ progress.FindsFrom text i := by
  induction rest generalizing i progress with
  | nil =>
    obtain rfl : i = text.length := Nat.le_antisymm hi (List.drop_eq_nil_iff.mp hrest)
    have hplace : Place.inText text text.length =
        ⟨(Place.inText text text.length).before, none⟩ := by
      rw [Place.inText, List.getElem?_eq_none (Nat.le_refl _)]
    unfold endsIn
    rw [← hplace, findsFrom_length_iff]
  | cons c rest ih =>
    have hnext : text[i]? = some c := by
      rw [← List.head?_drop, hrest, List.head?_cons]
    have hlt : i < text.length := (List.getElem?_eq_some_iff.mp hnext).1
    have hdrop : text.drop (i + 1) = rest := by
      rw [← List.tail_drop, hrest, List.tail_cons]
    have hplace : Place.inText text i = ⟨(Place.inText text i).before, some c⟩ := by
      rw [Place.inText, hnext]
    have hbefore : some c = (Place.inText text (i + 1)).before := by
      simp [Place.inText, hnext]
    unfold endsIn
    rw [← hplace, Bool.or_eq_true, hbefore, ih hdrop hlt, findsFrom_iff_step hlt]

end Progress

/-- A text is accepted when a pattern matches some stretch of it. -/
theorem Pattern.matchesIn_iff {pattern : Pattern} (h : pattern.IsBounded) (text : String) :
    pattern.matchesIn text = true ↔
      ∃ i j, i ≤ text.toList.length ∧ pattern.Matches text.toList i j := by
  have hstart : text.toList.drop 0 = text.toList := List.drop_zero
  refine (Progress.endsIn_iff hstart (Nat.zero_le _) (.idle pattern.plain)).trans ?_
  simp only [Progress.FindsFrom, Progress.Continues, exists_false, false_or, Nat.zero_le, true_and,
    Progress.pattern, Pattern.plain_matches_iff h, exists_and_left]

end ProgramImage
