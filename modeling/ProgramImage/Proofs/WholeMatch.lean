import ProgramImage.Pattern.Language
import ProgramImage.Proofs.PatternSearch
import ProgramImage.Proofs.PatternText
import ProgramImage.Proofs.RegexRun

/-!
# Matches of whole texts

A regular expression is a pattern between anchors. When the pattern is one by itself, the regular
expression accepts the texts that the pattern matches from the first to the last character, and no
other ones. A text that is no pattern by itself can still become one between the anchors, when it
closes their group and opens another one: then each anchor belongs to one alternative only.

This holds of every language of patterns in which groups and the two anchors have their usual
meaning. Nothing else is asked of the language, so that its patterns may be anything else beside.

## Main definitions

* `PatternSemantics` gives the meaning of patterns.
* `PatternSemantics.Describes` says what of it is needed for regular expressions.
* `PatternSemantics.basic` is the meaning of basic patterns.

## Main statements

* `PatternSemantics.basic_describes`: basic patterns are such a language.
* `RegexTable.accepts_iff_matchesWhole`: a regular expression, and the type it is the validator
  of, accepts a text when the pattern matches all of it.
* `Regex.isMatch_of_brokenGroup` shows a text that is accepted although it only starts right.
-/

namespace ProgramImage

/-! ### Meanings -/

/-- The stretches of a text that a pattern matches, each from one place to another one. -/
abbrev Stretches : Type :=
  List Char → Nat → Nat → Prop

namespace Stretches

/-- The empty stretch at the start of a text. -/
def textStart : Stretches := fun _ i j => i = 0 ∧ j = 0

/-- The empty stretch at the end of a text. -/
def textEnd : Stretches := fun text i j => i = text.length ∧ j = text.length

/-- A stretch of one pattern and then one of another pattern. -/
def andThen (first second : Stretches) : Stretches := fun text i j =>
  ∃ k, first text i k ∧ second text k j

/-- A text from its first to its last character. -/
def Whole (stretches : Stretches) (text : String) : Prop :=
  stretches text.toList 0 text.toList.length

/-- Between the two ends of a text there are only whole texts. -/
theorem between_ends_iff (stretches : Stretches) (text : List Char) :
    (∃ i j, textStart.andThen (stretches.andThen textEnd) text i j) ↔
      stretches text 0 text.length := by
  constructor
  · rintro ⟨_, _, _, ⟨rfl, rfl⟩, _, hmatch, rfl, rfl⟩
    exact hmatch
  · intro hmatch
    exact ⟨0, text.length, 0, ⟨rfl, rfl⟩, text.length, hmatch, rfl, rfl⟩

end Stretches

/-- The meaning of patterns. A text that is no pattern by itself has none. -/
structure PatternSemantics where
  meaning? : String → Option Stretches

/-- What a regular expression needs of the meaning of patterns. -/
structure PatternSemantics.Describes (semantics : PatternSemantics) (patterns : PatternLanguage) :
    Prop where
  /-- Only patterns are accepted, but some may be refused, such as very large ones. -/
  accepted : ∀ {pattern}, patterns.check pattern = .ok () →
    ∃ stretches, semantics.meaning? pattern = some stretches
  /-- A pattern is searched for in all of a text. -/
  search : ∀ {pattern stretches}, patterns.check pattern = .ok () →
    semantics.meaning? pattern = some stretches → ∀ text,
      (patterns.matchesIn pattern text = true ↔ ∃ i j, stretches text.toList i j)
  /-- An anchor matches at its end of a text and nowhere else. -/
  textStart : semantics.meaning? "^" = some .textStart
  textEnd : semantics.meaning? "$" = some .textEnd
  /-- A group matches what the pattern in it matches. -/
  group : ∀ {pattern inner grouped}, semantics.meaning? pattern = some inner →
    semantics.meaning? ("(?:" ++ pattern ++ ")") = some grouped → grouped = inner
  /-- Patterns in a row match one after the other. Flags that are set in a group end with it, so
      that an anchor outside of the group means what it does by itself. -/
  row : ∀ {pattern inner start stop whole}, semantics.meaning? pattern = some inner →
    semantics.meaning? "^" = some start → semantics.meaning? "$" = some stop →
    semantics.meaning? ("^" ++ ("(?:" ++ pattern ++ ")") ++ "$") = some whole →
      ∃ grouped, semantics.meaning? ("(?:" ++ pattern ++ ")") = some grouped ∧
        whole = start.andThen (grouped.andThen stop)

theorem Regex.anchored_eq_row (pattern : String) :
    anchored pattern = "^" ++ ("(?:" ++ pattern ++ ")") ++ "$" := by
  rw [← String.toList_inj]
  simp [anchored]

/-! ### Basic patterns -/

namespace Pattern

variable {text : List Char} {i j : Nat}

theorem Matches.bounds {pattern : Pattern} (hbounded : pattern.IsBounded)
    (h : pattern.Matches text i j) : i ≤ j ∧ (i ≤ text.length → j ≤ text.length) :=
  ((plain_matches_iff hbounded).mpr h).bounds

/-- Only the first place of a text has nothing before it. -/
theorem textStart_holds_iff (hi : i ≤ text.length) :
    Assertion.textStart.holds (Place.inText text i).before (Place.inText text i).after = true ↔
      i = 0 := by
  cases i with
  | zero => simp [Assertion.holds, Place.inText]
  | succ i => simp [Assertion.holds, Place.inText, Nat.lt_of_succ_le hi]

/-- Only the last place of a text has nothing behind it. -/
theorem textEnd_holds_iff (hi : i ≤ text.length) :
    Assertion.textEnd.holds (Place.inText text i).before (Place.inText text i).after = true ↔
      i = text.length := by
  simp only [Assertion.holds, Place.inText, Option.isNone_iff_eq_none, List.getElem?_eq_none_iff]
  omega

/-- The stretches that a pattern matches within a text. -/
def stretches (pattern : Pattern) : Stretches := fun text i j =>
  i ≤ text.length ∧ pattern.Matches text i j

theorem stretches_textStart : (assertion .textStart).stretches = .textStart := by
  funext text i j
  refine propext ⟨?_, ?_⟩
  · rintro ⟨hi, rfl, hstart⟩
    have hzero := (textStart_holds_iff hi).mp hstart
    exact ⟨hzero, hzero⟩
  · rintro ⟨rfl, rfl⟩
    exact ⟨Nat.zero_le _, rfl, (textStart_holds_iff (Nat.zero_le _)).mpr rfl⟩

theorem stretches_textEnd : (assertion .textEnd).stretches = .textEnd := by
  funext text i j
  refine propext ⟨?_, ?_⟩
  · rintro ⟨hi, rfl, hend⟩
    have hlast := (textEnd_holds_iff hi).mp hend
    exact ⟨hlast, hlast⟩
  · rintro ⟨rfl, rfl⟩
    exact ⟨Nat.le_refl _, rfl, (textEnd_holds_iff (Nat.le_refl _)).mpr rfl⟩

/-- The second of two patterns starts within the text, since the first one ends there. -/
theorem stretches_seq {first second : Pattern} (hfirst : first.IsBounded) :
    (seq first second).stretches = first.stretches.andThen second.stretches := by
  funext text i j
  refine propext ⟨?_, ?_⟩
  · rintro ⟨hi, k, hmatch, hrest⟩
    exact ⟨k, ⟨hi, hmatch⟩, (Matches.bounds hfirst hmatch).2 hi, hrest⟩
  · rintro ⟨k, ⟨hi, hmatch⟩, -, hrest⟩
    exact ⟨hi, k, hmatch, hrest⟩

end Pattern

/-- The meaning of basic patterns. -/
def PatternSemantics.basic : PatternSemantics where
  meaning? text := (Pattern.read? text).map Pattern.stretches

namespace PatternSemantics

theorem basic_meaning? (text : String) :
    basic.meaning? text = (Pattern.read? text).map Pattern.stretches :=
  rfl

/-- What is accepted has the meaning of what it is parsed to. -/
theorem parse_of_check {text : String} (h : PatternLanguage.basic.check text = .ok ()) :
    ∃ parsed, Pattern.parse text = .ok parsed ∧ basic.meaning? text = some parsed.stretches := by
  simp only [PatternLanguage.basic] at h
  split at h
  · rename_i parsed hparsed
    exact ⟨parsed, hparsed, by rw [basic_meaning?, Pattern.read?_of_parse hparsed, Option.map_some]⟩
  · cases h

/-- Groups and anchors have their usual meaning in basic patterns. -/
theorem basic_describes : basic.Describes .basic where
  accepted h := by
    obtain ⟨parsed, -, hmeaning⟩ := parse_of_check h
    exact ⟨_, hmeaning⟩
  search h hmeaning text := by
    obtain ⟨parsed, hparsed, hparsedMeaning⟩ := parse_of_check h
    obtain rfl := Option.some.inj (hparsedMeaning.symm.trans hmeaning)
    simp only [PatternLanguage.basic, hparsed]
    exact Pattern.matchesIn_iff (Pattern.read?_isBounded (Pattern.read?_of_parse hparsed)) text
  textStart := congrArg some Pattern.stretches_textStart
  textEnd := congrArg some Pattern.stretches_textEnd
  group hinner hgrouped := by
    obtain ⟨parsed, hread, rfl⟩ := Option.map_eq_some_iff.mp hinner
    rw [basic_meaning?, Pattern.read?_group hread, Option.map_some] at hgrouped
    exact (Option.some.inj hgrouped).symm
  row hinner hstart hstop hwhole := by
    obtain ⟨parsed, hread, rfl⟩ := Option.map_eq_some_iff.mp hinner
    have hgrouped := Pattern.read?_group hread
    have hanchored := Pattern.read?_anchored hread
    rw [Regex.anchored_eq_row] at hanchored
    refine ⟨_, by rw [basic_meaning?, hgrouped, Option.map_some], ?_⟩
    rw [basic_meaning?, hanchored, Option.map_some] at hwhole
    rw [← Option.some.inj hwhole, ← Option.some.inj hstart, ← Option.some.inj hstop]
    have hfirst : (Pattern.assertion .textStart).IsBounded := trivial
    rw [Pattern.stretches_seq hfirst, Pattern.stretches_seq (Pattern.read?_isBounded hgrouped)]
    rfl

end PatternSemantics

/-! ### Regular expressions -/

variable {patterns : PatternLanguage} {semantics : PatternSemantics} {stretches : Stretches}

/-- A regular expression accepts what its pattern matches as a whole. -/
theorem Regex.isMatch_iff_whole (hsemantics : semantics.Describes patterns)
    {text pattern : String} {regex : Regex} (hmeaning : semantics.meaning? pattern = some stretches)
    (hregex : Regex.compile patterns text pattern = .ok regex) (value : String) :
    regex.isMatch patterns value = true ↔ stretches.Whole value := by
  obtain ⟨haccepted, rfl⟩ := RegexTable.compile_eq_ok_iff.mp hregex
  obtain ⟨whole, hwhole⟩ := hsemantics.accepted haccepted
  have hrow : whole = Stretches.textStart.andThen (stretches.andThen .textEnd) := by
    rw [anchored_eq_row] at hwhole
    obtain ⟨grouped, hgrouped, rfl⟩ :=
      hsemantics.row hmeaning hsemantics.textStart hsemantics.textEnd hwhole
    rw [hsemantics.group hmeaning hgrouped]
  rw [isMatch, hsemantics.search haccepted hwhole, hrow]
  exact Stretches.between_ends_iff stretches value.toList

/-- Between the anchors stands no pattern, since the group that they open is closed within the text.
    The first alternative is then free to go on behind its match. -/
theorem Regex.isMatch_of_brokenGroup :
    PatternSemantics.basic.Describes .basic ∧
      PatternSemantics.basic.meaning? "a)|(?:b" = none ∧
      ∃ regex, Regex.compile .basic "v" "a)|(?:b" = .ok regex ∧
        regex.isMatch .basic "ax" = true := by
  have hread : Pattern.read? "a)|(?:b" = none := by decide +kernel
  have hok : (Regex.compile .basic "v" "a)|(?:b").toOption.any
      (fun regex => regex.isMatch .basic "ax") = true := by
    decide +kernel
  refine ⟨PatternSemantics.basic_describes, ?_, Except.exists_of_any hok⟩
  rw [PatternSemantics.basic_meaning?, hread, Option.map_none]

namespace RegexTable

/-- A regular expression whose pattern is one by itself accepts what the pattern matches as a whole,
    and the type that it was added for accepts the same. -/
theorem accepts_iff_matchesWhole (hsemantics : semantics.Describes patterns)
    {text pattern : String} (hmeaning : semantics.meaning? pattern = some stretches)
    {regex : Regex} (hregex : Regex.compile patterns text pattern = .ok regex) (value : String) :
    (regex.isMatch patterns value = true ↔ stretches.Whole value) ∧
      ∀ requests tid id,
        (RegexRequest.addValidator tid text pattern).IsFirstSuccess patterns requests id →
          (after patterns requests).size ≤ idCount →
            (after patterns requests).validate patterns tid value =
              some (regex.isMatch patterns value) := by
  refine ⟨Regex.isMatch_iff_whole hsemantics hmeaning hregex value, ?_⟩
  intro requests tid id hfirst hsize
  obtain ⟨added, place, hadded, -, -, -, hvalidator⟩ :=
    (isStable patterns requests).validator_entry tid text pattern id hfirst
  obtain rfl : added = regex := Except.ok.inj (hadded.symm.trans hregex)
  rw [validate, hvalidator hsize, Option.map_some]

theorem accepts_iff_matchesWhole_of_alternatives :
    PatternSemantics.basic.Describes .basic ∧
      ∃ stretches : Stretches, PatternSemantics.basic.meaning? "a|bc" = some stretches ∧
        stretches.Whole "bc" ∧ ¬stretches.Whole "abc" ∧
        (after .basic [.addValidator ⟨30⟩ "v" "a|bc"]).validate .basic ⟨30⟩ "abc" = some false := by
  have hpattern : (Pattern.read? "a|bc").isSome = true := by decide +kernel
  have hcompiles : (Regex.compile .basic "v" "a|bc").toOption.any
      (fun regex => regex.isMatch .basic "bc" && !regex.isMatch .basic "abc") = true := by
    decide +kernel
  have hadds : (empty.answer .basic (.addValidator ⟨30⟩ "v" "a|bc")).isOk = true := by
    decide +kernel
  obtain ⟨parsed, hparsed⟩ := Option.isSome_iff_exists.mp hpattern
  have hmeaning : PatternSemantics.basic.meaning? "a|bc" = some parsed.stretches := by
    rw [PatternSemantics.basic_meaning?, hparsed, Option.map_some]
  obtain ⟨regex, hregex, htexts⟩ := Except.exists_of_any hcompiles
  obtain ⟨⟨id, later⟩, hanswer⟩ := Except.exists_of_isOk hadds
  obtain ⟨hbc, habc⟩ := Bool.and_eq_true_iff.mp htexts
  have hfirst : (RegexRequest.addValidator ⟨30⟩ "v" "a|bc").IsFirstSuccess .basic
      [.addValidator ⟨30⟩ "v" "a|bc"] id :=
    ⟨[], [], rfl, fun _ _ _ h => absurd h (by simp), later, hanswer⟩
  have hsize : (after .basic [.addValidator ⟨30⟩ "v" "a|bc"]).size ≤ idCount :=
    (size_after_le _ _).trans (by decide)
  have hdescribes := PatternSemantics.basic_describes
  have hwhole := accepts_iff_matchesWhole hdescribes hmeaning hregex "bc"
  obtain ⟨hpart, hvalidate⟩ := accepts_iff_matchesWhole hdescribes hmeaning hregex "abc"
  refine ⟨hdescribes, _, hmeaning, hwhole.1.mp hbc, ?_, ?_⟩
  · intro h
    rw [hpart.mpr h] at habc
    cases habc
  · have hfalse : regex.isMatch .basic "abc" = false := by simpa using habc
    rw [hvalidate _ _ _ hfirst hsize, hfalse]

end RegexTable

end ProgramImage
