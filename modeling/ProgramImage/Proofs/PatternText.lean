import ProgramImage.Proofs.PatternMeaning
import ProgramImage.Proofs.PatternReaders
import ProgramImage.Regexes

/-!
# Patterns between anchors

The text of a pattern is read the same way in a group, and so is that group between anchors. Counts
that are read are in order, so that repetitions do not need more than they allow.

## Main definitions

* `Pattern.read?` is the pattern that a text is read as, however large it is.

## Main statements

* `Pattern.read?_group`: in a group the text of a pattern is read as a group of that pattern.
* `Pattern.read?_anchored`: between anchors it is read as that group between the ends of a text.
* `Pattern.read?_isBounded`: the repetitions of a pattern that is read have their bounds in order.
-/

namespace ProgramImage

namespace Pattern

/-! ### Alternatives -/

mutual

theorem readAlternatives_append {state state' : State} {part : Part}
    {text rest outside : List Char} :
    ∀ {fuel fuel' : Nat}, fuel ≤ fuel' →
      readAlternatives fuel state text = .ok (part, state', rest) →
      readAlternatives fuel' state (text ++ closing outside) =
        .ok (part, state', rest ++ closing outside)
  | 0, _, _, h => by cases h
  | fuel + 1, fuel' + 1, hfuel, h => by
    have hle := Nat.le_of_succ_le_succ hfuel
    unfold readAlternatives at h ⊢
    obtain ⟨⟨first, state1, rest1⟩, hfirst, h⟩ := Except.bind_eq_ok.mp h
    obtain ⟨⟨others, state2, rest2⟩, hothers, h⟩ := Except.bind_eq_ok.mp h
    cases h
    exact Except.bind_eq_ok.mpr ⟨_, readSequence_append hle hfirst,
      Except.bind_eq_ok.mpr ⟨_, readOthers_append hle hothers, rfl⟩⟩

theorem readOthers_append {state state' : State} {parts : List Part}
    {text rest outside : List Char} :
    ∀ {fuel fuel' : Nat}, fuel ≤ fuel' →
      readOthers fuel state text = .ok (parts, state', rest) →
      readOthers fuel' state (text ++ closing outside) =
        .ok (parts, state', rest ++ closing outside)
  | 0, _, _, h => by cases h
  | fuel + 1, fuel' + 1, hfuel, h => by
    have hle := Nat.le_of_succ_le_succ hfuel
    unfold readOthers at h
    split at h
    · obtain ⟨⟨first, state1, rest1⟩, hfirst, h⟩ := Except.bind_eq_ok.mp h
      obtain ⟨⟨others, state2, rest2⟩, hothers, h⟩ := Except.bind_eq_ok.mp h
      cases h
      rw [List.cons_append, readOthers.eq_2]
      exact Except.bind_eq_ok.mpr ⟨_, readSequence_append hle hfirst,
        Except.bind_eq_ok.mpr ⟨_, readOthers_append hle hothers, rfl⟩⟩
    · rename_i hbar
      cases h
      have hbar := not_append_closing outside ['|'] (by decide) hbar
      rw [readOthers.eq_3 _ _ _ hbar]
      rfl

/-- A sequence that ends with the text ends before the closing. -/
theorem readSequence_append {state state' : State} {sequence : Sequence} {part : Part}
    {text rest outside : List Char} :
    ∀ {fuel fuel' : Nat}, fuel ≤ fuel' →
      readSequence fuel state sequence text = .ok (part, state', rest) →
      readSequence fuel' state sequence (text ++ closing outside) =
        .ok (part, state', rest ++ closing outside)
  | 0, _, _, h => by cases h
  | fuel + 1, fuel' + 1, hfuel, h => by
    have hle := Nat.le_of_succ_le_succ hfuel
    unfold readSequence at h ⊢
    obtain ⟨found, hfound, h⟩ := Except.bind_eq_ok.mp h
    refine Except.bind_eq_ok.mpr ⟨_, readRepetition_append hfound, ?_⟩
    cases found with
    | some found =>
      dsimp only [Option.map_some] at h ⊢
      split at h
      · cases h
      · exact readSequence_append hle h
    | none =>
      dsimp only [Option.map_none] at h ⊢
      split at h
      · -- the text is at its end, where the closing ends the sequence
        cases h
        rfl
      · cases h
        rfl
      · cases h
        rfl
      · rename_i behind
        obtain ⟨⟨head, behind'⟩, hhead, h⟩ := Except.bind_eq_ok.mp h
        refine Except.bind_eq_ok.mpr ⟨_, readGroupHead_append hhead, ?_⟩
        cases head with
        | flags flags => exact readSequence_append hle h
        | group flags name isKept =>
          obtain ⟨inner, hinner, h⟩ := Except.bind_eq_ok.mp h
          refine Except.bind_eq_ok.mpr ⟨_, hinner, ?_⟩
          obtain ⟨⟨body, inner', behind'⟩, hbody, h⟩ := Except.bind_eq_ok.mp h
          refine Except.bind_eq_ok.mpr ⟨_, readAlternatives_append hle hbody, ?_⟩
          dsimp only at h ⊢
          split at h
          · exact readSequence_append hle h
          · cases h
      · rename_i hnil hbar hclose hopen
        obtain ⟨⟨leaf, behind⟩, hleaf, hrest⟩ := Except.bind_eq_ok.mp h
        obtain ⟨c, text, rfl⟩ := List.exists_cons_of_ne_nil hnil
        rw [List.cons_append]
        split
        · rename_i heq
          cases heq
        · rename_i heq
          exact absurd (by rw [(List.cons.inj heq).1]) (hbar text)
        · rename_i heq
          exact absurd (by rw [(List.cons.inj heq).1]) (hclose text)
        · rename_i heq
          exact absurd (by rw [(List.cons.inj heq).1]) (hopen text)
        · exact Except.bind_eq_ok.mpr ⟨_, readLeaf_append hleaf, readSequence_append hle hrest⟩

end

/-! ### Whole patterns -/

/-- The pattern that a whole text is read as, however large it is. -/
def read? (text : String) : Option Pattern :=
  match readAlternatives (2 * text.toList.length + 2) ⟨.initial, []⟩ text.toList with
  | .ok (part, _, []) => some part.pattern
  | _ => none

theorem read?_eq_some_iff {text : String} {pattern : Pattern} :
    read? text = some pattern ↔
      ∃ part state, readAlternatives (2 * text.toList.length + 2) ⟨.initial, []⟩ text.toList =
        .ok (part, state, []) ∧ part.pattern = pattern := by
  unfold read?
  constructor
  · intro h
    split at h
    · rename_i part state hread
      exact ⟨part, state, hread, Option.some.inj h⟩
    · cases h
  · rintro ⟨part, state, hread, rfl⟩
    rw [hread]

/-- What is accepted as a pattern is read as one. -/
theorem read?_of_parse {text : String} {pattern : Pattern} (h : parse text = .ok pattern) :
    read? text = some pattern := by
  unfold parse at h
  obtain ⟨⟨part, state, rest⟩, hread, h⟩ := Except.bind_eq_ok.mp h
  dsimp only at h
  cases rest with
  | cons c rest => cases h
  | nil =>
    refine read?_eq_some_iff.mpr ⟨part, state, hread, ?_⟩
    split at h
    · cases h
    · split at h
      · cases h
      · split at h
        · cases h
        · exact Except.ok.inj h

section

variable {fuel : Nat} {state : State} {sequence : Sequence} {text : List Char}

/-- A character that is neither a mark nor a parenthesis is read as a leaf. -/
theorem readSequence_leaf {c : Char} {leaf : Part} {rest : List Char}
    (hmark : readRepetition (c :: text) = .ok none) (hc : c ∉ ['|', ')', '('])
    (hleaf : readLeaf state.flags (c :: text) = .ok (leaf, rest)) :
    readSequence (fuel + 1) state sequence (c :: text) =
      readSequence fuel state (sequence.push leaf) rest := by
  simp only [List.mem_cons, List.not_mem_nil, or_false, not_or] at hc
  conv => lhs; unfold readSequence
  rw [hmark, Except.ok_bind]
  simp [hc, hleaf, Except.ok_bind]

theorem readSequence_group {flags : Flags} {name : Option String} {isKept : Bool}
    {inner inner' : State} {body : Part} {rest tail : List Char}
    (hhead : readGroupHead state.flags text = .ok (.group flags name isKept, rest))
    (hinner : state.enter flags name = .ok inner)
    (hbody : readAlternatives fuel inner rest = .ok (body, inner', ')' :: tail)) :
    readSequence (fuel + 1) state sequence ('(' :: text) =
      readSequence fuel ⟨state.flags, inner'.names⟩ (sequence.push (body.group isKept)) tail := by
  have hmark : readRepetition ('(' :: text) = .ok none := rfl
  conv => lhs; unfold readSequence
  rw [hmark, Except.ok_bind]
  simp only [hhead, Except.ok_bind, hinner, hbody]

/-- The end of the text ends a sequence. -/
theorem readSequence_nil :
    readSequence (fuel + 1) state sequence [] = .ok (.sequence sequence.items, state, []) := by
  unfold readSequence
  rfl

/-- The text of a pattern is read the same in a group, whatever stands outside of it. -/
theorem readSequence_enclosed {part : Part} {outside : List Char} (sequence : Sequence)
    (h : readAlternatives (2 * text.length + 2) ⟨.initial, []⟩ text = .ok (part, state, []))
    (hfuel : 2 * text.length + 2 ≤ fuel) :
    readSequence (fuel + 1) ⟨.initial, []⟩ sequence
        ('(' :: '?' :: ':' :: (text ++ closing outside)) =
      readSequence fuel ⟨.initial, state.names⟩ (sequence.push (part.group false)) outside := by
  have hhead : readGroupHead .initial ('?' :: ':' :: (text ++ closing outside)) =
      .ok (.group .initial none false, text ++ closing outside) := by
    simp [readGroupHead, readFlags]
  exact readSequence_group hhead rfl (readAlternatives_append hfuel h)

/-- A sequence up to the end of the text is the only alternative. -/
theorem readAlternatives_of_sequence {part : Part} {state' : State}
    (h : readSequence (fuel + 1) state .initial text = .ok (part, state', [])) :
    readAlternatives (fuel + 2) state text = .ok (part, state', []) := by
  unfold readAlternatives
  rw [h]
  rfl

end

section

variable {text : String} {pattern : Pattern}

/-- In a group, the text of a pattern is read as a group of that pattern. -/
theorem read?_group (h : read? text = some pattern) :
    read? ("(?:" ++ text ++ ")") = some (group false pattern) := by
  obtain ⟨part, state, hread, rfl⟩ := read?_eq_some_iff.mp h
  have hchars : ("(?:" ++ text ++ ")").toList =
      '(' :: '?' :: ':' :: (text.toList ++ closing []) := by
    simp [closing]
  have hfuel : 2 * ("(?:" ++ text ++ ")").toList.length + 2 =
      2 * text.toList.length + 8 + 2 := by
    rw [hchars]
    simp [closing]
    omega
  refine read?_eq_some_iff.mpr ⟨part.group false, ⟨.initial, state.names⟩, ?_, rfl⟩
  rw [hfuel, hchars]
  refine readAlternatives_of_sequence ?_
  rw [readSequence_enclosed .initial hread (by omega), readSequence_nil]
  rfl

/-- Between anchors, it is read as that group between the two ends of a text. -/
theorem read?_anchored (h : read? text = some pattern) :
    read? (Regex.anchored text) =
      some (seq (assertion .textStart) (seq (group false pattern) (assertion .textEnd))) := by
  obtain ⟨part, state, hread, rfl⟩ := read?_eq_some_iff.mp h
  have hchars : (Regex.anchored text).toList =
      '^' :: '(' :: '?' :: ':' :: (text.toList ++ closing ['$']) := by
    simp [Regex.anchored, closing]
  have hfuel : 2 * (Regex.anchored text).toList.length + 2 = 2 * text.toList.length + 12 + 2 := by
    rw [hchars]
    simp [closing]
    omega
  obtain ⟨whole, hsequence, hwhole⟩ : ∃ whole,
      readSequence (2 * text.toList.length + 13) ⟨.initial, []⟩ .initial
        (Regex.anchored text).toList = .ok (whole, ⟨.initial, state.names⟩, []) ∧
      whole.pattern =
        seq (assertion .textStart) (seq (group false part.pattern) (assertion .textEnd)) := by
    rw [hchars, readSequence_leaf rfl (by decide) rfl, readSequence_enclosed _ hread (by omega),
      readSequence_leaf rfl (by decide) rfl, readSequence_nil]
    exact ⟨_, rfl, rfl⟩
  refine read?_eq_some_iff.mpr ⟨whole, ⟨.initial, state.names⟩, ?_, hwhole⟩
  rw [hfuel]
  exact readAlternatives_of_sequence hsequence

end

/-! ### Bounds -/

/-- What is at least needed is not more than what is at most allowed. -/
def Bounds.IsOrdered (bounds : Bounds) : Prop :=
  ∀ most, bounds.most = some most → bounds.least ≤ most

theorem readMark_isOrdered {least : Nat} {most : Option Nat} {text rest : List Char}
    {bounds : Bounds} (h : readMark least most text = (bounds, rest))
    (hle : ∀ m, most = some m → least ≤ m) : bounds.IsOrdered := by
  unfold readMark at h
  split at h
  · cases h
    exact hle
  · cases h
    exact hle

theorem readCount_isOrdered {text rest : List Char} {bounds : Bounds}
    (h : readCount text = .ok (bounds, rest)) : bounds.IsOrdered := by
  unfold readCount at h
  dsimp only at h
  split at h
  · cases h
  · obtain ⟨⟨least, behind⟩, -, h⟩ := Except.bind_eq_ok.mp h
    dsimp only at h
    split at h
    · exact readMark_isOrdered (Except.ok.inj h) nofun
    · cases h
    · obtain ⟨⟨most, behind'⟩, -, h⟩ := Except.bind_eq_ok.mp h
      obtain ⟨result, hclose, h⟩ := Except.bind_eq_ok.mp h
      dsimp only at hclose h
      split at h
      · rename_i hle
        cases h
        split at hclose
        · refine readMark_isOrdered (Except.ok.inj hclose) ?_
          rintro m ⟨⟩
          exact hle
        · cases hclose
      · cases h
    · split at h
      · refine readMark_isOrdered (Except.ok.inj h) ?_
        rintro m ⟨⟩
        exact Nat.le_refl least
      · cases h

theorem readRepetition_isOrdered {text rest : List Char} {bounds : Bounds}
    (h : readRepetition text = .ok (some (bounds, rest))) : bounds.IsOrdered := by
  unfold readRepetition at h
  split at h
  · exact readMark_isOrdered (Option.some.inj (Except.ok.inj h)) fun m _ => Nat.zero_le m
  · exact readMark_isOrdered (Option.some.inj (Except.ok.inj h)) nofun
  · exact readMark_isOrdered (Option.some.inj (Except.ok.inj h)) nofun
  · obtain ⟨found, hcount, hfound⟩ := Except.map_eq_ok.mp h
    cases hfound
    exact readCount_isOrdered hcount
  · cases h

theorem readLeaf_isBounded {flags : Flags} {text rest : List Char} {leaf : Part}
    (h : readLeaf flags text = .ok (leaf, rest)) : leaf.pattern.IsBounded := by
  unfold readLeaf at h
  split at h
  · cases h
  · obtain ⟨⟨escape, behind⟩, -, h⟩ := Except.map_eq_ok.mp h
    cases h
    cases escape <;> trivial
  · obtain ⟨⟨nested, behind⟩, -, h⟩ := Except.map_eq_ok.mp h
    cases h
    trivial
  all_goals
    cases h
    trivial

namespace Part

theorem sequencePattern_isBounded {last : Pattern} {before : List Part} (hlast : last.IsBounded)
    (hbefore : ∀ part ∈ before, part.pattern.IsBounded) :
    (sequencePattern last before).IsBounded := by
  induction before generalizing last with
  | nil => exact hlast
  | cons part before ih =>
    obtain ⟨hpart, hbefore⟩ := List.forall_mem_cons.mp hbefore
    exact ih ⟨hpart, hlast⟩ hbefore

theorem sequence_isBounded {parts : List Part} (h : ∀ part ∈ parts, part.pattern.IsBounded) :
    (sequence parts).pattern.IsBounded := by
  match parts with
  | [] => trivial
  | [part] => exact h part List.mem_cons_self
  | last :: part :: before =>
    obtain ⟨hlast, hbefore⟩ := List.forall_mem_cons.mp h
    exact sequencePattern_isBounded hlast hbefore

theorem choice_isBounded {first : Part} {others : List Part} (hfirst : first.pattern.IsBounded)
    (hothers : ∀ part ∈ others, part.pattern.IsBounded) :
    (choice first others).pattern.IsBounded := by
  have hchoice : (choicePattern first others).IsBounded := by
    induction others generalizing first with
    | nil => exact hfirst
    | cons next others ih =>
      obtain ⟨hnext, hothers⟩ := List.forall_mem_cons.mp hothers
      exact ⟨hfirst, ih hnext hothers⟩
  cases others with
  | nil => exact hfirst
  | cons next others => exact hchoice

end Part

mutual

theorem readAlternatives_isBounded {state state' : State} {part : Part} {text rest : List Char} :
    ∀ {fuel : Nat}, readAlternatives fuel state text = .ok (part, state', rest) →
      part.pattern.IsBounded
  | 0, h => by cases h
  | fuel + 1, h => by
    unfold readAlternatives at h
    obtain ⟨⟨first, state1, rest1⟩, hfirst, h⟩ := Except.bind_eq_ok.mp h
    obtain ⟨⟨others, state2, rest2⟩, hothers, h⟩ := Except.bind_eq_ok.mp h
    cases h
    exact Part.choice_isBounded (readSequence_isBounded hfirst nofun)
      (readOthers_isBounded hothers)

theorem readOthers_isBounded {state state' : State} {parts : List Part} {text rest : List Char} :
    ∀ {fuel : Nat}, readOthers fuel state text = .ok (parts, state', rest) →
      ∀ part ∈ parts, part.pattern.IsBounded
  | 0, h => by cases h
  | fuel + 1, h => by
    unfold readOthers at h
    split at h
    · obtain ⟨⟨next, state1, rest1⟩, hnext, h⟩ := Except.bind_eq_ok.mp h
      obtain ⟨⟨others, state2, rest2⟩, hothers, h⟩ := Except.bind_eq_ok.mp h
      cases h
      exact List.forall_mem_cons.mpr
        ⟨readSequence_isBounded hnext nofun, readOthers_isBounded hothers⟩
    · cases h
      exact nofun

theorem readSequence_isBounded {state state' : State} {sequence : Sequence} {part : Part}
    {text rest : List Char} :
    ∀ {fuel : Nat}, readSequence fuel state sequence text = .ok (part, state', rest) →
      (∀ item ∈ sequence.items, item.pattern.IsBounded) → part.pattern.IsBounded
  | 0, h, _ => by cases h
  | fuel + 1, h, hitems => by
    unfold readSequence at h
    obtain ⟨found, hfound, h⟩ := Except.bind_eq_ok.mp h
    cases found with
    | some found =>
      dsimp only at h
      split at h
      · cases h
      · rename_i last hlast
        have hsequence : sequence.items = last :: sequence.before := by
          rw [Sequence.items, hlast]
          rfl
        rw [hsequence] at hitems
        obtain ⟨hbody, hbefore⟩ := List.forall_mem_cons.mp hitems
        have hrepeated : (last.repeated state.flags found.1).pattern.IsBounded :=
          ⟨hbody, readRepetition_isOrdered hfound⟩
        exact readSequence_isBounded h (List.forall_mem_cons.mpr ⟨hrepeated, hbefore⟩)
    | none =>
      dsimp only at h
      split at h
      · cases h
        exact Part.sequence_isBounded hitems
      · cases h
        exact Part.sequence_isBounded hitems
      · cases h
        exact Part.sequence_isBounded hitems
      · rename_i behind
        obtain ⟨⟨head, behind'⟩, -, h⟩ := Except.bind_eq_ok.mp h
        cases head with
        | flags flags =>
          exact readSequence_isBounded h (List.forall_mem_cons.mpr ⟨trivial, hitems⟩)
        | group flags name isKept =>
          obtain ⟨inner, -, h⟩ := Except.bind_eq_ok.mp h
          obtain ⟨⟨body, inner', behind'⟩, hbody, h⟩ := Except.bind_eq_ok.mp h
          have hgroup : body.pattern.IsBounded := readAlternatives_isBounded hbody
          dsimp only at h
          split at h
          · exact readSequence_isBounded h (List.forall_mem_cons.mpr ⟨hgroup, hitems⟩)
          · cases h
      · obtain ⟨⟨leaf, behind⟩, hleaf, hrest⟩ := Except.bind_eq_ok.mp h
        exact readSequence_isBounded hrest
          (List.forall_mem_cons.mpr ⟨readLeaf_isBounded hleaf, hitems⟩)

end

theorem read?_isBounded {text : String} {pattern : Pattern} (h : read? text = some pattern) :
    pattern.IsBounded := by
  obtain ⟨part, state, hread, rfl⟩ := read?_eq_some_iff.mp h
  exact readAlternatives_isBounded hread

end Pattern

end ProgramImage
