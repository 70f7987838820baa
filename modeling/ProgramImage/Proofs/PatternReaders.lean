import Mathlib.Data.List.TakeWhile
import ProgramImage.Pattern.Parser
import ProgramImage.Proofs.Outcome

/-!
# Readers before a closing

A pattern in a group is followed by the closing parenthesis and by whatever stands outside of the
group. Each reader of the pattern language that succeeds on a text reads the same from that text in
front of the closing, and leaves the closing behind what it left before: no part of a pattern that
is read to its end goes on with a closing parenthesis.

## Main definitions

* `Pattern.closing` is what stands behind a pattern in a group.

## Main statements

* `Pattern.readRepetition_append`, `Pattern.readGroupHead_append` and `Pattern.readLeaf_append`
  say so of the readers that a sequence is read with.
-/

namespace ProgramImage

namespace Pattern

/-- What stands behind a pattern in a group: the end of the group, and what is outside of it. -/
def closing (outside : List Char) : List Char := ')' :: outside

section

variable {text rest outside : List Char}

/-- A start of the text without a parenthesis is one of what stands before the closing. -/
theorem not_append_closing (outside start : List Char) (hstart : ')' ∉ start)
    (h : ∀ tail, text = start ++ tail → False) (tail : List Char) :
    text ++ closing outside = start ++ tail → False := by
  intro heq
  rcases List.append_eq_append_iff.mp heq with ⟨more, hmore, hclosing⟩ | ⟨more, hmore, -⟩
  · cases more with
    | nil => exact h [] (by rw [hmore, List.append_nil, List.append_nil])
    | cons c more =>
      obtain rfl : c = ')' := (List.cons.inj hclosing).1.symm
      exact hstart (hmore ▸ List.mem_append_right _ List.mem_cons_self)
  · exact h more hmore

/-- What is read while a test holds ends before the closing. -/
theorem span_append_closing (outside text : List Char) {p : Char → Bool}
    (h : p ')' = false ∨ text.dropWhile p ≠ []) :
    (text ++ closing outside).takeWhile p = text.takeWhile p ∧
      (text ++ closing outside).dropWhile p = text.dropWhile p ++ closing outside := by
  induction text with
  | nil =>
    have hp : p ')' = false := h.resolve_right fun hne => hne rfl
    simp [closing, hp]
  | cons c text ih =>
    by_cases hc : p c = true
    · rw [List.dropWhile_cons_of_pos hc] at h
      simp [hc, ih h]
    · simp [hc]

/-! ### Repetitions -/

theorem readMark_append (least : Nat) (most : Option Nat) (text : List Char) :
    readMark least most (text ++ closing outside) =
      ((readMark least most text).1, (readMark least most text).2 ++ closing outside) := by
  rcases text with _ | ⟨c, rest⟩
  · rfl
  · by_cases h : c = '?'
    · subst h
      rfl
    · simp [readMark, h]

theorem readNumber_append {n : Nat} (h : readNumber text = .ok (n, rest)) :
    readNumber (text ++ closing outside) = .ok (n, rest ++ closing outside) := by
  have hblank := fun text =>
    (span_append_closing outside text (p := Text.isBlank) (.inl (by decide))).2
  have hdecimal := fun text =>
    span_append_closing outside text (p := Digits.isDecimal) (.inl (by decide))
  unfold readNumber at h ⊢
  simp only [hblank, hdecimal] at h ⊢
  split at h
  · cases h
  · split at h
    · obtain ⟨rfl, rfl⟩ := Prod.mk.inj (Except.ok.inj h)
      simp [*]
    · cases h

theorem readCount_append {bounds : Bounds} (h : readCount text = .ok (bounds, rest)) :
    readCount (text ++ closing outside) = .ok (bounds, rest ++ closing outside) := by
  unfold readCount at h ⊢
  dsimp only at h ⊢
  split at h
  · cases h
  · rename_i hempty
    have hfull : ¬(text ++ closing outside).isEmpty = true := by simp [closing]
    rw [if_neg hfull]
    obtain ⟨⟨least, behind⟩, hleast, h⟩ := Except.bind_eq_ok.mp h
    refine Except.bind_eq_ok.mpr ⟨_, readNumber_append hleast, ?_⟩
    dsimp only at h ⊢
    split at h
    · exact congrArg Except.ok ((readMark_append ..).trans (by rw [Except.ok.inj h]))
    · cases h
    · rename_i tail hbrace hnil
      obtain ⟨⟨most, behind⟩, hmost, h⟩ := Except.bind_eq_ok.mp h
      obtain ⟨result, hclose, h⟩ := Except.bind_eq_ok.mp h
      dsimp only at hclose h
      split at hclose
      · obtain rfl := Except.ok.inj hclose
        split at h
        · rename_i hle
          have hresult := Except.ok.inj h
          rcases tail with _ | ⟨c, tail⟩
          · exact absurd rfl hnil
          · have hc : c ≠ '\x7d' := fun hc => hbrace tail (by rw [hc])
            have hmost' : readNumber (c :: tail ++ closing outside) = .ok (most, _) :=
              readNumber_append hmost
            rw [List.cons_append] at hmost'
            rw [List.cons_append, List.cons_append]
            simp [hc, hmost', Except.ok_bind, readMark_append, hle, hresult]
        · cases h
      · cases hclose
    · split at h
      · simp [readMark_append, Except.ok.inj h]
      · cases h

/-- Bounds of a repetition, or their absence, are found by what stands before the closing. -/
theorem readRepetition_append {found : Option (Bounds × List Char)}
    (h : readRepetition text = .ok found) :
    readRepetition (text ++ closing outside) =
      .ok (found.map fun read => (read.1, read.2 ++ closing outside)) := by
  unfold readRepetition at h
  split at h
  · obtain rfl := Except.ok.inj h
    simp [readRepetition, readMark_append]
  · obtain rfl := Except.ok.inj h
    simp [readRepetition, readMark_append]
  · obtain rfl := Except.ok.inj h
    simp [readRepetition, readMark_append]
  · obtain ⟨⟨bounds, rest⟩, hcount, rfl⟩ := Except.map_eq_ok.mp h
    simp [readRepetition, readCount_append hcount, Except.map]
  · rename_i hlazy hstar hplus hbrace
    obtain rfl := Except.ok.inj h
    have h1 := not_append_closing outside ['?'] (by decide) hlazy
    have h2 := not_append_closing outside ['*'] (by decide) hstar
    have h3 := not_append_closing outside ['+'] (by decide) hplus
    have h4 := not_append_closing outside ['\x7b'] (by decide) hbrace
    simp only [List.singleton_append] at h1 h2 h3 h4
    rw [readRepetition.eq_5 _ h1 h2 h3 h4, Option.map_none]

/-! ### Groups -/

theorem readName_append {name : String} (h : readName text = .ok (name, rest)) :
    readName (text ++ closing outside) = .ok (name, rest ++ closing outside) := by
  unfold readName at h ⊢
  dsimp only at h ⊢
  split at h
  · cases h
  · rename_i c behind hbehind
    have hspan := span_append_closing outside _ (.inr (by rw [hbehind]; exact List.cons_ne_nil _ _))
    rw [hspan.1, hspan.2, hbehind]
    split at h
    · cases h
    · split at h
      · rename_i hname
        obtain ⟨rfl, rfl⟩ := Prod.mk.inj (Except.ok.inj h)
        simp [*]
      · cases h

theorem readFlags_append {flags flags' : Flags} {seen : List Char}
    (h : readFlags flags seen text = .ok (flags', rest)) :
    readFlags flags seen (text ++ closing outside) = .ok (flags', rest ++ closing outside) := by
  fun_induction readFlags flags seen text with
  | case1 => cases h
  | case2 => cases h
  | case3 flags seen c text hc hhead =>
    obtain ⟨rfl, rfl⟩ := Prod.mk.inj (Except.ok.inj h)
    simp [readFlags, hc, hhead]
  | case4 => cases h
  | case5 flags seen text hc hseen ih =>
    simp only [List.cons_append, readFlags, hc, hseen, if_true]
    exact ih h
  | case6 flags seen c text hc hseen hne flags' hset ih =>
    simp only [List.cons_append, readFlags, hc, hseen, hne, hset, if_false]
    exact ih h
  | case7 => cases h

/-- Flags end before a character that is left. -/
theorem readFlags_rest {flags flags' : Flags} {seen : List Char}
    (h : readFlags flags seen text = .ok (flags', rest)) : rest ≠ [] := by
  fun_induction readFlags flags seen text with
  | case1 => cases h
  | case2 => cases h
  | case3 flags seen c text hc hhead =>
    obtain ⟨-, rfl⟩ := Prod.mk.inj (Except.ok.inj h)
    exact List.cons_ne_nil c text
  | case4 => cases h
  | case5 flags seen text hc hseen ih => exact ih h
  | case6 flags seen c text hc hseen hne flags' hset ih => exact ih h
  | case7 => cases h

theorem readGroupHead_append {flags : Flags} {head : GroupHead}
    (h : readGroupHead flags text = .ok (head, rest)) :
    readGroupHead flags (text ++ closing outside) = .ok (head, rest ++ closing outside) := by
  unfold readGroupHead at h
  split at h
  · cases h
  · cases h
  · cases h
  · cases h
  · obtain ⟨⟨name, rest⟩, hname, hhead⟩ := Except.map_eq_ok.mp h
    obtain ⟨rfl, rfl⟩ := Prod.mk.inj hhead
    simp [readGroupHead, readName_append hname, Except.map]
  · rename_i behind hequal hnot
    obtain ⟨⟨name, rest⟩, hname, hhead⟩ := Except.map_eq_ok.mp h
    obtain ⟨rfl, rfl⟩ := Prod.mk.inj hhead
    have h1 := not_append_closing outside ['='] (by decide) hequal
    have h2 := not_append_closing outside ['!'] (by decide) hnot
    simp only [List.singleton_append] at h1 h2
    rw [List.cons_append, List.cons_append, readGroupHead.eq_6 _ _ h1 h2, readName_append hname]
    rfl
  · cases h
  · rename_i behind h1 h2 h3 h4 h5 h6 h7
    -- no other start of a group comes about by the closing
    have h1 := not_append_closing outside ['='] (by decide) h1
    have h2 := not_append_closing outside ['!'] (by decide) h2
    have h3 := not_append_closing outside ['<', '='] (by decide) h3
    have h4 := not_append_closing outside ['<', '!'] (by decide) h4
    have h5 := not_append_closing outside ['P', '<'] (by decide) h5
    have h6 := not_append_closing outside ['<'] (by decide) h6
    have h7 : ∀ tail, behind ++ closing outside = ')' :: tail → False := by
      cases behind with
      | nil =>
        -- flags are not read from nothing
        cases h
      | cons c behind =>
        intro tail heq
        exact h7 behind (by rw [(List.cons.inj heq).1])
    rw [List.cons_append, readGroupHead.eq_8 _ _ h1 h2 h3 h4 h5 h6 h7]
    split at h
    · rename_i hflags
      obtain ⟨rfl, rfl⟩ := Prod.mk.inj (Except.ok.inj h)
      rw [readFlags_append hflags]
      rfl
    · rename_i hclose hflags
      obtain ⟨rfl, rfl⟩ := Prod.mk.inj (Except.ok.inj h)
      obtain ⟨c, behind, rfl⟩ := List.exists_cons_of_ne_nil (readFlags_rest hflags)
      rw [readFlags_append hflags]
      by_cases hc : c = ')'
      · exact absurd (by rw [hc]) (hclose behind)
      · simp [hc]
    · cases h
  · rename_i h1 h2 h3 h4 h5 h6 h7 h8
    obtain ⟨rfl, rfl⟩ := Prod.mk.inj (Except.ok.inj h)
    have h8 := not_append_closing outside ['?'] (by decide) h8
    rw [readGroupHead.eq_9 _ _ (fun tail => h8 _) (fun tail => h8 _) (fun tail => h8 _)
      (fun tail => h8 _) (fun tail => h8 _) (fun tail => h8 _) (fun tail => h8 _) h8]

/-! ### Leaves -/

theorem readCodePoint_append {width : Nat} {escape : Escape}
    (h : readCodePoint width text = .ok (escape, rest)) :
    readCodePoint width (text ++ closing outside) = .ok (escape, rest ++ closing outside) := by
  unfold readCodePoint at h
  split at h
  · rename_i digits
    dsimp only at h
    split at h
    · cases h
    · rename_i c behind hbehind
      have hspan := span_append_closing outside digits
        (.inr (by rw [hbehind]; exact List.cons_ne_nil _ _))
      split at h
      · cases h
      · rename_i hsome
        obtain ⟨code, hcode, hescape⟩ := Except.map_eq_ok.mp h
        obtain ⟨rfl, rfl⟩ := Prod.mk.inj hescape
        rw [List.cons_append, readCodePoint.eq_1]
        rw [hspan.1, hspan.2, hbehind, List.cons_append]
        exact (if_neg hsome).trans (by rw [hcode]; rfl)
  · rename_i hbrace
    have hbrace := not_append_closing outside ['\x7b'] (by decide) hbrace
    dsimp only at h
    split at h
    · cases h
    · rename_i hwidth
      obtain ⟨code, hcode, hescape⟩ := Except.map_eq_ok.mp h
      obtain ⟨rfl, rfl⟩ := Prod.mk.inj hescape
      have hlength : width ≤ text.length := by
        rw [List.length_take] at hwidth
        omega
      rw [readCodePoint.eq_2 _ _ hbrace, List.take_append_of_le_length hlength,
        List.drop_append_of_le_length hlength, if_neg hwidth, hcode]
      rfl

theorem readBoundary_append {escape : Escape} (h : readBoundary text = .ok (escape, rest)) :
    readBoundary (text ++ closing outside) = .ok (escape, rest ++ closing outside) := by
  unfold readBoundary at h
  split at h
  · rename_i behind
    dsimp only at h
    split at h
    · cases h
    · rename_i c tail
      split at h
      · rename_i hname
        obtain ⟨rfl, rfl⟩ := Prod.mk.inj (Except.ok.inj h)
        simp [readBoundary, hname]
      · split at h
        · rename_i hname _ behind hbehind
          have hspan := span_append_closing outside _
            (.inr (by rw [hbehind]; exact List.cons_ne_nil _ _))
          rw [List.cons_append] at hspan
          rw [List.cons_append, List.cons_append, readBoundary.eq_2, hspan.1, hspan.2, hbehind,
            List.cons_append, if_neg hname]
          split at h
          all_goals first
            | cases h
              rename_i hkind
              simp only [hkind]
            | cases h
        · cases h
  · rename_i hbrace
    obtain ⟨rfl, rfl⟩ := Prod.mk.inj (Except.ok.inj h)
    have hbrace := not_append_closing outside ['\x7b'] (by decide) hbrace
    rw [readBoundary.eq_3 _ hbrace]

theorem readEscape_append {escape : Escape} (h : readEscape text = .ok (escape, rest)) :
    readEscape (text ++ closing outside) = .ok (escape, rest ++ closing outside) := by
  unfold readEscape at h
  split at h
  · cases h
  · rename_i c behind
    rw [List.cons_append]
    unfold readEscape
    dsimp only
    by_cases hdigit : c.isDigit = true
    · rw [if_pos hdigit] at h
      cases h
    · rw [if_neg hdigit] at h ⊢
      by_cases hmeta : (isMeta c || isPunctuation c) = true
      · rw [if_pos hmeta] at h ⊢
        obtain ⟨rfl, rfl⟩ := Prod.mk.inj (Except.ok.inj h)
        rfl
      · rw [if_neg hmeta] at h ⊢
        split at h
        · exact readCodePoint_append h
        · exact readCodePoint_append h
        · exact readCodePoint_append h
        all_goals first
          | exact readBoundary_append h
          | (cases h; rfl)
          | cases h

/-! ### Classes -/

/-- The set that a name stands for, when a colon and a bracket end the name. -/
def namedSet? (flags : Flags) (negated : Bool) (text : List Char) : Option (CharSet × List Char) :=
  match text.dropWhile (· != ':') with
  | ':' :: ']' :: rest =>
    (CharSet.named.lookup (String.ofList (text.takeWhile (· != ':')))).map fun set =>
      (flags.close negated set, rest)
  | _ => none

/-- No set has a name with a parenthesis in it. -/
theorem named_lookup_eq_none {name : List Char} (h : ')' ∈ name) :
    CharSet.named.lookup (String.ofList name) = none := by
  have hplain : ∀ entry ∈ CharSet.named, ')' ∉ entry.1.toList := by decide
  refine List.lookup_eq_none_iff.mpr fun entry hentry => bne_iff_ne.mpr ?_
  rintro hname
  exact hplain entry hentry (by rwa [← hname, String.toList_ofList])

/-- A name that does not end with the text would have the parenthesis of the closing in it. -/
theorem namedSet?_append_of_open (flags : Flags) (negated : Bool) {text : List Char}
    (h : text.dropWhile (· != ':') = []) :
    namedSet? flags negated (text ++ closing outside) = none := by
  have hmem : ')' ∈ (text ++ closing outside).takeWhile (· != ':') := by
    rw [List.takeWhile_append_of_pos (List.dropWhile_eq_nil_iff.mp h)]
    simp [closing]
  unfold namedSet?
  split
  · rw [named_lookup_eq_none hmem, Option.map_none]
  · rfl

/-- A named set is one of the text or there is none. -/
theorem namedSet?_append (flags : Flags) (negated : Bool) (text : List Char) :
    namedSet? flags negated (text ++ closing outside) =
      (namedSet? flags negated text).map fun read => (read.1, read.2 ++ closing outside) := by
  cases hbehind : List.dropWhile (· != ':') text with
  | nil =>
    rw [namedSet?_append_of_open flags negated hbehind]
    simp [namedSet?, hbehind]
  | cons c behind =>
    have hspan := span_append_closing outside _ (.inr (by rw [hbehind]; exact List.cons_ne_nil _ _))
    unfold namedSet?
    rw [hspan.1, hspan.2, hbehind]
    rcases behind with _ | ⟨d, behind⟩
    · simp [closing]
    · by_cases hc : c = ':'
      · by_cases hd : d = ']'
        · simp [hc, hd, Function.comp_def]
        · simp [hd]
      · simp [hc]

theorem readNamed?_append (flags : Flags) (text : List Char) :
    readNamed? flags (text ++ closing outside) =
      (readNamed? flags text).map fun read => (read.1, read.2 ++ closing outside) := by
  rcases text with _ | ⟨c, _ | ⟨d, text⟩⟩
  · rfl
  · by_cases hc : c = ':'
    · subst hc
      show namedSet? flags false ([] ++ closing outside) = none
      exact namedSet?_append_of_open flags false rfl
    · simp [readNamed?, hc]
  · by_cases hc : c = ':'
    · subst hc
      by_cases hd : d = '^'
      · subst hd
        exact namedSet?_append flags true text
      · have hplain : ∀ text tail, d :: text = '^' :: tail → False :=
          fun text tail heq => hd (List.cons.inj heq).1
        rw [List.cons_append, List.cons_append, readNamed?.eq_2 _ _ (hplain _),
          readNamed?.eq_2 _ _ (hplain _)]
        exact namedSet?_append flags false (d :: text)
    · simp [readNamed?, hc]

theorem readClassItem_append {escape : Escape} (h : readClassItem text = .ok (escape, rest)) :
    readClassItem (text ++ closing outside) = .ok (escape, rest ++ closing outside) := by
  unfold readClassItem at h
  split at h
  · cases h
  · exact readEscape_append h
  · rename_i c behind hescape
    obtain ⟨rfl, rfl⟩ := Prod.mk.inj (Except.ok.inj h)
    rw [List.cons_append, readClassItem.eq_3 _ _ hescape]

theorem opensRange_append : opensRange (text ++ closing outside) = opensRange text := by
  cases text with
  | nil => rfl
  | cons c text => rfl

theorem readRange_append {set : CharSet} (h : readRange text = .ok (set, rest)) :
    readRange (text ++ closing outside) = .ok (set, rest ++ closing outside) := by
  unfold readRange at h ⊢
  obtain ⟨⟨first, behind⟩, hfirst, h⟩ := Except.bind_eq_ok.mp h
  refine Except.bind_eq_ok.mpr ⟨_, readClassItem_append hfirst, ?_⟩
  dsimp only at h ⊢
  split at h
  · cases h
  · rename_i behind
    simp only [List.cons_append]
    rw [opensRange_append]
    split at h
    · rename_i hopens
      obtain ⟨⟨last, behind'⟩, hlast, h⟩ := Except.bind_eq_ok.mp h
      rw [if_pos hopens]
      refine Except.bind_eq_ok.mpr ⟨_, readClassItem_append hlast, ?_⟩
      dsimp only at h ⊢
      split at h
      · split at h
        · rename_i hle
          cases h
          rw [if_pos hle]
        · cases h
      · cases h
    · rename_i hopens
      obtain ⟨set, hset, h⟩ := Except.bind_eq_ok.mp h
      cases h
      rw [if_neg hopens]
      exact Except.bind_eq_ok.mpr ⟨set, hset, rfl⟩
  · rename_i hempty hhyphen
    obtain ⟨set, hset, h⟩ := Except.bind_eq_ok.mp h
    cases h
    obtain ⟨c, behind, rfl⟩ := List.exists_cons_of_ne_nil hempty
    have hc : c ≠ '-' := fun hc => hhyphen behind (by rw [hc])
    simp only [List.cons_append]
    split
    · rename_i heq
      cases heq
    · rename_i heq
      exact absurd (List.cons.inj heq).1 hc
    · exact Except.bind_eq_ok.mpr ⟨set, hset, rfl⟩

theorem leadingLiterals_append (outside text : List Char) :
    leadingLiterals (text ++ closing outside) =
      ((leadingLiterals text).1, (leadingLiterals text).2 ++ closing outside) := by
  rcases text with _ | ⟨c, text⟩
  · rfl
  · by_cases hhyphen : c = '-'
    · subst hhyphen
      have hspan := span_append_closing outside ('-' :: text) (p := (· == '-')) (.inl (by decide))
      rw [List.cons_append] at hspan
      rw [List.cons_append, leadingLiterals.eq_1, leadingLiterals.eq_1, hspan.1, hspan.2]
    · by_cases hbracket : c = ']'
      · subst hbracket
        rfl
      · simp [leadingLiterals, hhyphen, hbracket]

theorem openClass_append (text : List Char) :
    openClass (text ++ closing outside) =
      ((openClass text).1, (openClass text).2.1, (openClass text).2.2 ++ closing outside) := by
  rcases text with _ | ⟨c, text⟩
  · rfl
  · by_cases hnegated : c = '^'
    · subst hnegated
      simp [openClass, leadingLiterals_append]
    · have h := leadingLiterals_append outside (c :: text)
      rw [List.cons_append] at h
      simp [openClass, hnegated, h]

theorem readClass_append {flags : Flags} {fuel fuel' : Nat} {part : ClassPart} {nested : NestedSet}
    (h : readClass flags fuel part text = .ok (nested, rest)) (hfuel : fuel ≤ fuel') :
    readClass flags fuel' part (text ++ closing outside) =
      .ok (nested, rest ++ closing outside) := by
  induction fuel generalizing fuel' part nested text rest with
  | zero => cases h
  | succ fuel ih =>
    obtain ⟨more, rfl⟩ := Nat.exists_eq_add_of_le' hfuel
    have hle : fuel ≤ more + fuel := Nat.le_add_left fuel more
    rw [← Nat.add_assoc]
    unfold readClass at h
    split at h
    · cases h
    · cases h
      rfl
    · rw [List.cons_append, List.cons_append, readClass.eq_4]
      exact ih h hle
    · rw [List.cons_append, List.cons_append, readClass.eq_5]
      exact ih h hle
    · rw [List.cons_append, List.cons_append, readClass.eq_6]
      exact ih h hle
    · rename_i behind
      rw [List.cons_append, readClass.eq_7, readNamed?_append, openClass_append]
      split at h
      · rename_i hnamed
        rw [hnamed]
        exact ih h hle
      · rename_i hnamed
        rw [hnamed]
        dsimp only at h ⊢
        obtain ⟨⟨inner, rest'⟩, hinner, h⟩ := Except.bind_eq_ok.mp h
        exact Except.bind_eq_ok.mpr ⟨_, ih hinner hle, ih h hle⟩
    · rename_i hempty hbracket hinter hdiff hsymm hnested
      -- the closing starts no operation, and it neither opens nor closes a class
      have hempty : text ++ closing outside = [] → False := by simp [closing]
      have hbracket := not_append_closing outside [']'] (by decide) hbracket
      have hinter := not_append_closing outside ['&', '&'] (by decide) hinter
      have hdiff := not_append_closing outside ['-', '-'] (by decide) hdiff
      have hsymm := not_append_closing outside ['~', '~'] (by decide) hsymm
      have hnested := not_append_closing outside ['['] (by decide) hnested
      rw [readClass.eq_8 _ _ _ _ hempty hbracket hinter hdiff hsymm hnested]
      obtain ⟨⟨set, rest'⟩, hset, h⟩ := Except.bind_eq_ok.mp h
      exact Except.bind_eq_ok.mpr ⟨_, readRange_append hset, ih h hle⟩

theorem readWholeClass_append {flags : Flags} {nested : NestedSet}
    (h : readWholeClass flags text = .ok (nested, rest)) :
    readWholeClass flags (text ++ closing outside) = .ok (nested, rest ++ closing outside) := by
  unfold readWholeClass at h ⊢
  rw [openClass_append]
  dsimp only at h ⊢
  obtain ⟨⟨inner, behind⟩, hinner, h⟩ := Except.bind_eq_ok.mp h
  cases h
  refine Except.bind_eq_ok.mpr ⟨_, readClass_append hinner ?_, rfl⟩
  simp

theorem readLeaf_append {flags : Flags} {part : Part} (h : readLeaf flags text = .ok (part, rest)) :
    readLeaf flags (text ++ closing outside) = .ok (part, rest ++ closing outside) := by
  unfold readLeaf at h
  split at h
  · cases h
  · obtain ⟨⟨escape, behind⟩, hescape, h⟩ := Except.map_eq_ok.mp h
    cases h
    rw [List.cons_append, readLeaf.eq_2, readEscape_append hescape]
    rfl
  · obtain ⟨⟨nested, behind⟩, hnested, h⟩ := Except.map_eq_ok.mp h
    cases h
    rw [List.cons_append, readLeaf.eq_3, readWholeClass_append hnested]
    rfl
  · cases h
    rfl
  · cases h
    rfl
  · cases h
    rfl
  · rename_i hescape hclass hdot hstart hend
    cases h
    rw [List.cons_append, readLeaf.eq_7 _ _ _ hescape hclass hdot hstart hend]

end

end Pattern

end ProgramImage
