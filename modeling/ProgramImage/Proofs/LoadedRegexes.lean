import ProgramImage.Pattern.Language
import ProgramImage.Proofs.RegexRun

/-!
# Regular expressions of literals

A literal of a regular expression holds the number of an entry. The number is found when the
literal is stored, with the entries that there are by then: those of the texts. The entries of
types are added to the same table later, which does not move the others, so that the number still
leads to the first pattern that the document has for the text of the literal.

## Main definitions

* `RegexRecord.request` is the request that a record makes.
* `Initializer.Spares` says that computing a constant leaves some bytes as they are.

## Main statements

* `Load.regexes_run` finds the requests behind the entries of the texts.
* `Load.regex_literal_of_load` follows a literal to the record of its text.
* `Load.regex_handles` says that numbers are stable, and so are those in literals.
-/

namespace ProgramImage

/-- The request that a record makes. -/
def RegexRecord.request (record : RegexRecord) : RegexRequest :=
  .insert record.text record.pattern

/-- Computing a constant leaves bytes of the global buffer as they are. -/
def Initializer.Spares {σ : Type} (initializer : Initializer σ) (offset length : Nat) : Prop :=
  ∀ request state memory,
    (initializer.run request state memory).2.2.globals.read offset length =
      memory.globals.read offset length

theorem Initializer.KeepsMemory.spares {σ : Type} {initializer : Initializer σ}
    (h : initializer.KeepsMemory) (offset length : Nat) : initializer.Spares offset length := by
  intro request state memory
  rw [h]

namespace Load

open RegexTable (after)

variable {patterns : PatternLanguage} {table later : RegexTable}

/-! ### The requests of a load -/

theorem addRegex_answer {record : RegexRecord} (h : addRegex patterns table record = .ok later) :
    ∃ id, table.answer patterns record.request = .ok (id, later) :=
  addRegex_eq_ok h

/-- The table after the phase of the texts is the one after the requests of its records. -/
theorem regexes_run {records : List RegexRecord}
    (h : records.foldlM (addRegex patterns) .empty = .ok table) :
    table = after patterns (records.map RegexRecord.request) := by
  -- from the end, since a record finds the entries of those before it
  induction records using List.reverseRecOn generalizing table with
  | nil =>
    cases h
    rfl
  | append_singleton records last ih =>
    rw [List.foldlM_append] at h
    obtain ⟨mid, hmid, hlast⟩ := Except.bind_eq_ok.mp h
    obtain ⟨next, hnext, hnil⟩ := Except.bind_eq_ok.mp hlast
    cases hnil
    obtain ⟨id, hanswer⟩ := addRegex_answer hnext
    rw [List.map_append, List.map_singleton, RegexTable.after_concat, ← ih hmid,
      RegexTable.apply_of_ok hanswer]

/-- Every record of the phase makes a request that succeeds. -/
theorem regexes_answered {before rest : List RegexRecord} {record : RegexRecord}
    (h : (before ++ record :: rest).foldlM (addRegex patterns) .empty = .ok table) :
    ∃ answered, (after patterns (before.map RegexRecord.request)).answer patterns
      record.request = .ok answered := by
  rw [List.foldlM_append] at h
  obtain ⟨mid, hmid, hrest⟩ := Except.bind_eq_ok.mp h
  obtain ⟨next, hnext, -⟩ := Except.bind_eq_ok.mp hrest
  obtain ⟨id, hanswer⟩ := addRegex_answer hnext
  exact ⟨_, regexes_run hmid ▸ hanswer⟩

/-- A text leads to the first record that has it, and to what this was compiled to. -/
theorem regexes_lookup {records : List RegexRecord}
    (h : (regexes patterns records).outcome = .ok table) {text : String} {id : RegexId}
    (hlookup : table.lookup text = some id) :
    ∃ before record rest regex place, records = before ++ record :: rest ∧ record.text = text ∧
      (∀ earlier ∈ before, earlier.text ≠ text) ∧
      Regex.compile patterns record.text record.pattern = .ok regex ∧
      table.entries[place]? = some ⟨.literal, regex⟩ ∧ id = .ofPlace place := by
  rw [regexes_outcome] at h
  have hstable := RegexTable.isStable patterns (records.map RegexRecord.request)
  rw [regexes_run h] at hlookup ⊢
  obtain ⟨pattern, hfirst⟩ := (hstable.lookup_iff text id).mp hlookup
  obtain ⟨regex, place, hregex, -, hentry, hid, -⟩ := hstable.lookup_entry text pattern id hfirst
  obtain ⟨before, rest, hsplit, hfails, -⟩ := hfirst
  obtain ⟨earlier, others, hrecords, rfl, hothers⟩ := List.map_eq_append_iff.mp hsplit
  obtain ⟨record, behind, rfl, hrequest, rfl⟩ := List.map_eq_cons_iff.mp hothers
  obtain ⟨rfl, rfl⟩ : record.text = text ∧ record.pattern = pattern := by
    cases hrequest
    exact ⟨rfl, rfl⟩
  refine ⟨earlier, record, behind, regex, place, hrecords, rfl, ?_, hregex, hentry, hid⟩
  intro other hother hsame
  -- a load goes on only when its requests succeed, so this one would have been the first
  obtain ⟨front, back, rfl⟩ := List.append_of_mem hother
  obtain ⟨error, herror⟩ := hfails (front.map RegexRecord.request) other.request
    (back.map RegexRecord.request) (by rw [List.map_append, List.map_cons])
    (congrArg RegexKey.text hsame)
  rw [hrecords, List.append_assoc] at h
  obtain ⟨answered, hanswer⟩ := regexes_answered h
  rw [herror] at hanswer
  cases hanswer

/-- The phase of the texts makes at most one entry for each of its records. -/
theorem regexes_size_le {records : List RegexRecord}
    (h : (regexes patterns records).outcome = .ok table) : table.size ≤ records.length := by
  rw [regexes_outcome] at h
  rw [regexes_run h, ← List.length_map RegexRecord.request]
  exact RegexTable.size_after_le _ _

/-! ### Literals -/

variable {σ : Type} {config : LoadConfig} {initializer : Initializer σ} {state : σ}
  {doc : Document} {program : Program}

theorem literal_of_run (run : Run patterns config doc program) {i : Nat} {record : LiteralRecord}
    (hrecord : doc.literals[i]? = some record) (hregex : record.type = "Regex")
    (hkept : IsKept doc.literals i) :
    ∃ id, run.regexes.lookup record.text = some id ∧
      program.memory.globals.read record.start 8 = .ok (LittleEndian.encode 8 id.value) := by
  have hbare : Run patterns config { doc with constants := [] } program := { run with }
  have hload : (load patterns config .absent () { doc with constants := [] }).outcome =
      .ok program :=
    load_of_static (static_eq_ok_iff.mpr ⟨hbare⟩) rfl
  obtain ⟨value, ⟨tid, htid, hvalue⟩, -, -, hread⟩ := literal_loaded hload (.inl rfl) hrecord
  rw [hregex] at htid
  obtain rfl : TypeId.regex = tid := Option.some.inj htid
  cases hvalue with
  | @regex id hfound =>
    have hbytes := hread hkept nofun
    rw [Literal.image, LittleEndian.length_encode] at hbytes
    refine ⟨id, ?_, hbytes⟩
    rw [← validators_lookup run.validators_ok, hfound]

/-- A literal that no later one overlaps holds the number of the entry for its text, as long as the
    constants leave its bytes alone. -/
theorem regex_literal_of_load
    (hload : (load patterns config initializer state doc).outcome = .ok program) {i : Nat}
    {record : LiteralRecord} (hrecord : doc.literals[i]? = some record)
    (hregex : record.type = "Regex") (hkept : IsKept doc.literals i)
    (hspares : doc.constants = [] ∨ initializer.Spares record.start 8) :
    ∃ before source rest regex place id, doc.regexes = before ++ source :: rest ∧
      source.text = record.text ∧ (∀ earlier ∈ before, earlier.text ≠ record.text) ∧
      Regex.compile patterns source.text source.pattern = .ok regex ∧
      program.regexes.entries[place]? = some ⟨.literal, regex⟩ ∧ id = .ofPlace place ∧
      (doc.regexes.length ≤ idCount → program.regexes.get? id = some regex) ∧
      program.memory.globals.read record.start 8 = .ok (LittleEndian.encode 8 id.value) ∧
      program.memory.globals.readNat 8 record.start = .ok id.value := by
  obtain ⟨first, ⟨run⟩, hrest, hconstants⟩ := run_of_load hload
  obtain ⟨id, hlookup, hread⟩ := literal_of_run run hrecord hregex hkept
  obtain ⟨before, source, rest, regex, place, hregexes, htext, hearlier, hcompile, hplaced, rfl⟩ :=
    regexes_lookup run.regexes_ok hlookup
  have hlt := RegexTable.lt_size_of_getElem? hplaced
  -- the entries of types come behind it
  have hentry : first.regexes.entries[place]? = some ⟨.literal, regex⟩ := by
    rw [List.prefix_iff_getElem?.mp (validators_appends run.validators_ok) place hlt,
      ← List.getElem?_eq_getElem hlt, hplaced]
  have hkeptBytes : program.memory.globals.read record.start 8 =
      first.memory.globals.read record.start 8 := by
    rcases hspares with hnone | hspares
    · rw [hnone] at hconstants
      cases hconstants
      rfl
    · refine constants_keep_memory
        (P := fun memory => memory.globals.read record.start 8 =
          first.memory.globals.read record.start 8) ?_ rfl hconstants
      intro request state memory hmemory
      rw [hspares, hmemory]
  rw [hread] at hkeptBytes
  refine ⟨before, source, rest, regex, place, _, hregexes, htext, hearlier, hcompile, ?_, rfl, ?_,
    hkeptBytes, GlobalStore.readNat_encode ?_ hkeptBytes⟩
  · rw [hrest]
    exact hentry
  · intro hcount
    have hsize := regexes_size_le run.regexes_ok
    rw [hrest]
    exact RegexTable.get?_ofPlace (by omega) hentry
  · exact Nat.lt_trans (RegexId.value_ofPlace_lt place) (by decide)

/-- Numbers of regular expressions are stable, whatever the language of patterns and whatever is
    added. In a loaded program a literal that no later one overlaps, and whose bytes the constants
    leave alone, holds the number of an entry. This is what the first record with the exact text of
    the literal was compiled to, although the entries of types were added behind it. Numbers have 32
    bits, so that they lead to their entries while there are at most 2^32 of them. -/
theorem regex_handles (patterns : PatternLanguage) :
    (∀ requests, RegexTable.IsStable patterns requests) ∧
    ∀ {σ : Type} (config : LoadConfig) (initializer : Initializer σ) (state : σ) (doc : Document)
      (program : Program), (load patterns config initializer state doc).outcome = .ok program →
      ∀ i record, doc.literals[i]? = some record → record.type = "Regex" →
        IsKept doc.literals i → (doc.constants = [] ∨ initializer.Spares record.start 8) →
        ∃ before source rest regex place id, doc.regexes = before ++ source :: rest ∧
          source.text = record.text ∧ (∀ earlier ∈ before, earlier.text ≠ record.text) ∧
          Regex.compile patterns source.text source.pattern = .ok regex ∧
          program.regexes.entries[place]? = some ⟨.literal, regex⟩ ∧ id = .ofPlace place ∧
          (doc.regexes.length ≤ idCount → program.regexes.get? id = some regex) ∧
          program.memory.globals.read record.start 8 = .ok (LittleEndian.encode 8 id.value) ∧
          program.memory.globals.readNat 8 record.start = .ok id.value := by
  refine ⟨RegexTable.isStable patterns, ?_⟩
  intro σ config initializer state doc program hload i record hrecord hregex hkept hspares
  exact regex_literal_of_load hload hrecord hregex hkept hspares

/-- A document with a text that is listed twice, a type with a regular expression, and two literals
    that refer to texts. -/
def repeatedTexts : Document :=
  { Document.empty with
    globalSize := 16
    regexes := [⟨"/a/", "a"⟩, ⟨"/b/", "b"⟩, ⟨"/a/", "c"⟩]
    literals := [⟨0, "Regex", "/b/"⟩, ⟨8, "Regex", "/a/"⟩]
    validators := [⟨"String", ⟨"/b/", "d"⟩⟩] }

/-- The second literal holds the number of the first pattern for its text. -/
theorem regex_handles_of_repeatedTexts :
    ∃ program regex id, (load .basic .standard .deferring [] repeatedTexts).outcome = .ok program ∧
      program.regexes.size = 3 ∧
      repeatedTexts.literals[1]? = some ⟨8, "Regex", "/a/"⟩ ∧ IsKept repeatedTexts.literals 1 ∧
      Regex.compile .basic "/a/" "a" = .ok regex ∧ program.regexes.get? id = some regex ∧
      program.memory.globals.read 8 8 = .ok (LittleEndian.encode 8 id.value) := by
  have hok : (load .basic .standard .deferring [] repeatedTexts).outcome.toOption.any
      (fun program => program.regexes.size == 3) = true := by
    decide +kernel
  obtain ⟨program, hload, hsize⟩ := Except.exists_of_any hok
  have hkept : IsKept repeatedTexts.literals 1 := isKept_of_apart rfl (by decide)
  obtain ⟨before, source, rest, regex, place, id, hregexes, htext, hearlier, hcompile, -, -, hget,
      hread, -⟩ :=
    (regex_handles .basic).2 .standard .deferring [] repeatedTexts program hload 1 _ rfl rfl hkept
      (.inr (Initializer.keepsMemory_deferring.spares _ _))
  refine ⟨program, regex, id, hload, eq_of_beq hsize, rfl, hkept, ?_, hget (by decide), hread⟩
  cases before with
  | nil =>
    obtain ⟨rfl, -⟩ := List.cons.inj hregexes
    exact hcompile
  | cons earlier others =>
    -- the third record has the text too, but it is not the first one
    obtain ⟨rfl, -⟩ := List.cons.inj hregexes
    exact absurd rfl (hearlier _ List.mem_cons_self)

end Load

end ProgramImage
