import ProgramImage.Header

/-!
# Header words as records of fields

A header word is a record of five fields packed into sixty-four bits: a reference count, the
mark, the young bit, two bits that nothing uses, and a type identifier. Every word is one such
record and every record one word. An operation on a word does to the word what it does to the
record, where it touches one field and no other, and answers what the record says.

## Main definitions

* `HeaderFields` is the record, `HeaderWord.fields` reads it off a word and `HeaderFields.word`
  packs it.
* `HeaderOperation` is an operation on a header, with `HeaderWord.act` and `HeaderFields.act` for
  its two meanings.
* `runAll` lets a state go through a list of operations.

## Main statements

* `HeaderWord.word_fields` and `HeaderFields.fields_word` turn words into records and back.
* `HeaderWord.act_fields` is the simulation of one operation, and `runAll_simulates` of a run.
* `HeaderWord.refines_fields` is the whole refinement.
-/

namespace ProgramImage

/-! ### Fields -/

/-- The fields of a header, each within its width. -/
@[ext]
structure HeaderFields where
  count : Nat
  marked : Bool
  young : Bool
  /-- The two bits between the young bit and the type. -/
  unused : Nat
  tid : TypeId
  count_le : count ≤ HeaderWord.maxCount := by decide
  unused_le : unused ≤ 3 := by decide
  tid_le : tid.value ≤ TypeId.max := by decide
  deriving DecidableEq, Repr

namespace HeaderWord

theorem count_le (word : HeaderWord) : word.count ≤ maxCount := by
  have hraw := word.raw_le
  simp only [count, maxCount, countOne]
  omega

theorem tid_le (word : HeaderWord) : word.tid.value ≤ TypeId.max :=
  Nat.le_of_lt_succ (Nat.mod_lt _ (Nat.succ_pos _))

/-- The fields of a word. -/
def fields (word : HeaderWord) : HeaderFields where
  count := word.count
  marked := word.marked
  young := word.young
  unused := word.raw / (typeMask + 1) % 4
  tid := word.tid
  count_le := word.count_le
  unused_le := Nat.le_of_lt_succ (Nat.mod_lt _ (by decide))
  tid_le := word.tid_le

end HeaderWord

namespace HeaderFields

/-- The header of a moved object: all fields are zero. -/
def zero : HeaderFields where
  count := 0
  marked := false
  young := false
  unused := 0
  tid := .none

/-- The number that holds each field at its place. -/
def packed (fields : HeaderFields) : Nat :=
  fields.count * HeaderWord.countOne + fields.marked.toNat * HeaderWord.markBit +
    fields.young.toNat * HeaderWord.youngBit + fields.unused * (HeaderWord.typeMask + 1) +
    fields.tid.value

theorem digits_le (fields : HeaderFields) :
    fields.count ≤ HeaderWord.maxCount ∧ fields.marked.toNat ≤ 1 ∧ fields.young.toNat ≤ 1 ∧
      fields.unused ≤ 3 ∧ fields.tid.value ≤ TypeId.max :=
  ⟨fields.count_le, fields.marked.toNat_le, fields.young.toNat_le, fields.unused_le, fields.tid_le⟩

theorem packed_le (fields : HeaderFields) : fields.packed ≤ 0xFFFFFFFFFFFFFFFF := by
  obtain ⟨hcount, hmarked, hyoung, hunused, htid⟩ := fields.digits_le
  simp only [packed, HeaderWord.maxCount, HeaderWord.countOne, HeaderWord.markBit,
    HeaderWord.youngBit, HeaderWord.typeMask, TypeId.max] at *
  omega

/-- The word that holds some fields. -/
def word (fields : HeaderFields) : HeaderWord :=
  ⟨fields.packed, fields.packed_le⟩

end HeaderFields

namespace HeaderWord

variable {word : HeaderWord}

theorem toNat_marked (word : HeaderWord) : word.marked.toNat = word.raw / markBit % 2 := by
  unfold marked
  rcases Nat.mod_two_eq_zero_or_one (word.raw / markBit) with h | h <;> rw [h] <;> rfl

theorem toNat_young (word : HeaderWord) : word.young.toNat = word.raw / youngBit % 2 := by
  unfold young
  rcases Nat.mod_two_eq_zero_or_one (word.raw / youngBit) with h | h <;> rw [h] <;> rfl

theorem eq_of_raw_eq {first second : HeaderWord} (h : first.raw = second.raw) : first = second := by
  cases first
  cases second
  cases h
  rfl

/-- The fields of a word are its digits. -/
theorem raw_eq_packed (word : HeaderWord) : word.raw = word.fields.packed := by
  simp only [HeaderFields.packed, fields, toNat_marked, toNat_young, count, tid, countOne, markBit,
    youngBit, typeMask, TypeId.max]
  omega

theorem word_fields (word : HeaderWord) : word.fields.word = word :=
  eq_of_raw_eq word.raw_eq_packed.symm

end HeaderWord

theorem eq_of_toNat_eq : ∀ {a b : Bool}, a.toNat = b.toNat → a = b := by
  decide

/-- Digits within their widths are read back. -/
theorem HeaderFields.fields_word (fields : HeaderFields) : fields.word.fields = fields := by
  obtain ⟨hcount, hmarked, hyoung, hunused, htid⟩ := fields.digits_le
  have hraw : fields.word.raw = fields.packed := rfl
  simp only [packed, HeaderWord.maxCount, HeaderWord.countOne, HeaderWord.markBit,
    HeaderWord.youngBit, HeaderWord.typeMask, TypeId.max] at *
  -- no digit reaches the next one, so division and remainder find each in its place
  ext
  case count =>
    show fields.word.raw / HeaderWord.countOne = fields.count
    simp only [hraw, HeaderWord.countOne]
    omega
  case marked =>
    apply eq_of_toNat_eq
    show fields.word.marked.toNat = fields.marked.toNat
    rw [HeaderWord.toNat_marked, hraw, HeaderWord.markBit]
    omega
  case young =>
    apply eq_of_toNat_eq
    show fields.word.young.toNat = fields.young.toNat
    rw [HeaderWord.toNat_young, hraw, HeaderWord.youngBit]
    omega
  case unused =>
    show fields.word.raw / (HeaderWord.typeMask + 1) % 4 = fields.unused
    simp only [hraw, HeaderWord.typeMask, TypeId.max]
    omega
  case tid =>
    apply congrArg Index.mk
    show fields.word.raw % (HeaderWord.typeMask + 1) = fields.tid.value
    simp only [hraw, HeaderWord.typeMask, TypeId.max]
    omega

namespace HeaderWord

variable {word : HeaderWord}

theorem fields_of_raw {fields : HeaderFields} (h : word.raw = fields.packed) :
    word.fields = fields := by
  have hword : word = fields.word := eq_of_raw_eq h
  rw [hword, fields.fields_word]

/-- The count takes the bits from 24 on, the mark bit 23, the young bit 22, the unused bits 20 and
    21, and the type the twenty below. -/
theorem testBit_fields (word : HeaderWord) :
    (∀ i, word.fields.count.testBit i = word.raw.testBit (i + 24)) ∧
      word.fields.marked = word.raw.testBit 23 ∧ word.fields.young = word.raw.testBit 22 ∧
      (∀ i, word.fields.unused.testBit i = (decide (i < 2) && word.raw.testBit (i + 20))) ∧
      ∀ i, word.fields.tid.value.testBit i = (decide (i < 20) && word.raw.testBit i) := by
  refine ⟨fun i => ?_, ?_, ?_, fun i => ?_, fun i => ?_⟩
  · exact Nat.testBit_div_two_pow (n := 24) word.raw i
  · exact (Nat.testBit_eq_decide_div_mod_eq (x := word.raw) (i := 23)).symm
  · exact (Nat.testBit_eq_decide_div_mod_eq (x := word.raw) (i := 22)).symm
  · rw [← Nat.testBit_div_two_pow]
    exact Nat.testBit_mod_two_pow _ 2 i
  · exact Nat.testBit_mod_two_pow word.raw 20 i

theorem isReachable_iff (word : HeaderWord) :
    word.isReachable = true ↔ 0 < word.fields.count ∨ word.fields.marked = true := by
  have hmarked : word.fields.marked = true ↔ word.raw / markBit % 2 = 1 := beq_iff_eq
  have hcount : word.fields.count = word.raw / countOne := rfl
  have hreachable : word.isReachable = true ↔ word.raw / markBit ≠ 0 := bne_iff_ne
  rw [hmarked, hcount, hreachable]
  simp only [markBit, countOne]
  omega

theorem isForwarded_iff (word : HeaderWord) :
    word.isForwarded = true ↔ word.fields = .zero := by
  have hforwarded : word.isForwarded = true ↔ word.raw = 0 := beq_iff_eq
  rw [hforwarded]
  constructor
  · exact fun hraw => fields_of_raw hraw
  · intro hfields
    rw [raw_eq_packed, hfields]
    rfl

theorem raw_new (tid : TypeId) (count : Nat) (marked young : Bool) :
    (new tid count marked young).raw =
      count % (maxCount + 1) * countOne + marked.toNat * markBit + young.toNat * youngBit +
        tid.value % (typeMask + 1) :=
  rfl

/-- The fields that a header is made from. The count is cut to its width. -/
theorem fields_new {tid : TypeId} (htid : tid.value ≤ TypeId.max) (count : Nat)
    (marked young : Bool) :
    (new tid count marked young).fields.count = count % (maxCount + 1) ∧
      (new tid count marked young).fields.marked = marked ∧
      (new tid count marked young).fields.young = young ∧
      (new tid count marked young).fields.unused = 0 ∧
      (new tid count marked young).fields.tid = tid := by
  have hcount : count % (maxCount + 1) ≤ maxCount := Nat.le_of_lt_succ (Nat.mod_lt _ (by decide))
  -- the record is named, so that the five equations are projections of one
  let made : HeaderFields :=
    { count := count % (maxCount + 1), marked, young, unused := 0, tid, count_le := hcount,
      tid_le := htid }
  have hraw : (new tid count marked young).raw = made.packed := by
    simp only [raw_new, made, HeaderFields.packed, typeMask, TypeId.max] at htid ⊢
    omega
  have hfields : (new tid count marked young).fields = made := fields_of_raw hraw
  exact ⟨congrArg HeaderFields.count hfields, congrArg HeaderFields.marked hfields,
    congrArg HeaderFields.young hfields, congrArg HeaderFields.unused hfields,
    congrArg HeaderFields.tid hfields⟩

/-- The header of a new object is young and names its type; nothing counts or marks it. -/
theorem ofYoung_fields {tid : TypeId} (htid : tid.value ≤ TypeId.max) :
    (ofYoung tid).tid = tid ∧ (ofYoung tid).count = 0 ∧ (ofYoung tid).marked = false ∧
      (ofYoung tid).young = true := by
  obtain ⟨hcount, hmarked, hyoung, -, htype⟩ := fields_new htid 0 false true
  exact ⟨htype, hcount, hmarked, hyoung⟩

/-- A count that fits replaces the one of a word. -/
theorem setCount?_of_le {count : Nat} (h : count ≤ maxCount) (word : HeaderWord) :
    ∃ next, word.setCount? count = some next ∧
      next.fields = { word.fields with count, count_le := h } := by
  refine ⟨_, dif_pos h, fields_of_raw ?_⟩
  have hraw := word.raw_eq_packed
  obtain ⟨-, hmarked, hyoung, hunused, htid⟩ := word.fields.digits_le
  simp only [HeaderFields.packed, countOne, markBit, youngBit, typeMask, TypeId.max] at *
  omega

theorem setCount?_of_lt {count : Nat} (h : maxCount < count) (word : HeaderWord) :
    word.setCount? count = none :=
  dif_neg (Nat.not_le_of_lt h)

theorem fields_setMarked (word : HeaderWord) (marked : Bool) :
    (word.setMarked marked).fields = { word.fields with marked } := by
  apply fields_of_raw
  have hraw := word.raw_eq_packed
  obtain ⟨-, hmarked, hyoung, hunused, htid⟩ := word.fields.digits_le
  simp only [setMarked, HeaderFields.packed, countOne, markBit, youngBit, typeMask, TypeId.max] at *
  omega

theorem fields_promote (word : HeaderWord) :
    word.promote.fields = { word.fields with young := false } := by
  apply fields_of_raw
  have hraw := word.raw_eq_packed
  obtain ⟨-, hmarked, hyoung, hunused, htid⟩ := word.fields.digits_le
  simp only [promote, HeaderFields.packed, countOne, markBit, youngBit, typeMask, TypeId.max,
    Bool.toNat_false] at *
  omega

end HeaderWord

/-! ### Operations -/

/-- What may be done to a header. -/
inductive HeaderOperation where
  | setCount (count : Nat)
  | increment
  | decrement
  | setMarked (marked : Bool)
  | promote
  deriving DecidableEq, Repr

/-- What an operation on a header answers. -/
inductive HeaderAnswer where
  /-- Whether a count was set. -/
  | accepted (fits : Bool)
  /-- The count after a step up or down, if the step could be made. -/
  | counted (count : Option Nat)
  | done
  deriving DecidableEq, Repr

/-- An operation on a word. One that fails leaves the word. -/
def HeaderWord.act (word : HeaderWord) : HeaderOperation → HeaderAnswer × HeaderWord
  | .setCount count =>
    (.accepted (word.setCount? count).isSome, (word.setCount? count).getD word)
  | .increment => (.counted (word.increment?.map HeaderWord.count), word.increment?.getD word)
  | .decrement => (.counted (word.decrement?.map HeaderWord.count), word.decrement?.getD word)
  | .setMarked marked => (.done, word.setMarked marked)
  | .promote => (.done, word.promote)

/-- An operation on the fields. Each replaces one field; a count has to stay within its width. -/
def HeaderFields.act (fields : HeaderFields) : HeaderOperation → HeaderAnswer × HeaderFields
  | .setCount count =>
    if h : count ≤ HeaderWord.maxCount then
      (.accepted true, { fields with count, count_le := h })
    else (.accepted false, fields)
  | .increment =>
    if h : fields.count < HeaderWord.maxCount then
      (.counted (some (fields.count + 1)), { fields with count := fields.count + 1, count_le := h })
    else (.counted none, fields)
  | .decrement =>
    if fields.count = 0 then (.counted none, fields)
    else
      (.counted (some (fields.count - 1)),
        { fields with
          count := fields.count - 1
          count_le := Nat.le_trans (Nat.sub_le _ _) fields.count_le })
  | .setMarked marked => (.done, { fields with marked })
  | .promote => (.done, { fields with young := false })

/-- One operation: the word answers what its fields answer and becomes the word of their
    successors. -/
theorem HeaderWord.act_fields (word : HeaderWord) (operation : HeaderOperation) :
    (word.act operation).map id fields = word.fields.act operation := by
  -- a step up or down sets the next count, so all three succeed or fail with `setCount?`
  cases operation with
  | setCount count =>
    by_cases h : count ≤ maxCount
    · obtain ⟨next, hnext, hfields⟩ := setCount?_of_le h word
      simp only [act, HeaderFields.act, hnext, dif_pos h, ← hfields]
      rfl
    · have hnone := setCount?_of_lt (Nat.lt_of_not_le h) word
      simp only [act, HeaderFields.act, hnone, dif_neg h]
      rfl
  | increment =>
    by_cases h : word.fields.count < maxCount
    · obtain ⟨next, hnext, hfields⟩ := setCount?_of_le (Nat.succ_le_of_lt h) word
      have hstep : word.increment? = some next := hnext
      have hcount : next.count = word.fields.count + 1 := congrArg HeaderFields.count hfields
      simp only [act, HeaderFields.act, hstep, dif_pos h]
      exact Prod.ext (congrArg (HeaderAnswer.counted ∘ some) hcount) hfields
    · have hstep : word.increment? = none :=
        setCount?_of_lt (Nat.lt_succ_of_le (Nat.le_of_not_lt h)) word
      simp only [act, HeaderFields.act, hstep, dif_neg h]
      rfl
  | decrement =>
    by_cases h : word.fields.count = 0
    · have hstep : word.decrement? = none := if_pos h
      simp only [act, HeaderFields.act, hstep, if_pos h]
      rfl
    · have hle : word.fields.count - 1 ≤ maxCount := Nat.le_trans (Nat.sub_le _ _) word.count_le
      obtain ⟨next, hnext, hfields⟩ := setCount?_of_le hle word
      have hstep : word.decrement? = some next := (if_neg h).trans hnext
      have hcount : next.count = word.fields.count - 1 := congrArg HeaderFields.count hfields
      simp only [act, HeaderFields.act, hstep, if_neg h]
      exact Prod.ext (congrArg (HeaderAnswer.counted ∘ some) hcount) hfields
  | setMarked marked => exact congrArg (Prod.mk _) (word.fields_setMarked marked)
  | promote => exact congrArg (Prod.mk _) word.fields_promote

theorem HeaderFields.act_tid (fields : HeaderFields) (operation : HeaderOperation) :
    (fields.act operation).2.tid = fields.tid := by
  cases operation <;> simp only [act] <;> split <;> rfl

/-! ### Runs -/

section Run

variable {State OtherState Operation Answer : Type}

/-- Performs operations one after the other, and lists the answers. -/
def runAll (act : State → Operation → Answer × State) (state : State) :
    List Operation → List Answer × State
  | [] => ([], state)
  | operation :: operations =>
    let (answer, next) := act state operation
    let (answers, last) := runAll act next operations
    (answer :: answers, last)

/-- States that answer alike in each step answer alike in a run. -/
theorem runAll_simulates {act : State → Operation → Answer × State}
    {otherAct : OtherState → Operation → Answer × OtherState} {view : State → OtherState}
    (h : ∀ state operation, (act state operation).map id view = otherAct (view state) operation)
    (operations : List Operation) (state : State) :
    (runAll act state operations).map id view = runAll otherAct (view state) operations := by
  induction operations generalizing state with
  | nil => rfl
  | cons operation operations ih =>
    have hrest := ih (act state operation).2
    simp only [runAll, ← h]
    exact congrArg (fun rest => ((act state operation).1 :: rest.1, rest.2)) hrest

/-- What each step keeps, a run keeps. -/
theorem runAll_keeps {act : State → Operation → Answer × State} {Part : Type}
    (part : State → Part)
    (h : ∀ state operation, part (act state operation).2 = part state)
    (operations : List Operation) (state : State) :
    part (runAll act state operations).2 = part state := by
  induction operations generalizing state with
  | nil => rfl
  | cons operation operations ih => exact (ih _).trans (h state operation)

end Run

namespace HeaderWord

/-- No operation changes the type of an object. -/
theorem tid_runAll (word : HeaderWord) (operations : List HeaderOperation) :
    (runAll act word operations).2.tid = word.tid := by
  refine runAll_keeps tid (fun word operation => ?_) operations word
  have hfields : (word.act operation).2.fields = (word.fields.act operation).2 :=
    congrArg Prod.snd (word.act_fields operation)
  exact (congrArg HeaderFields.tid hfields).trans (word.fields.act_tid operation)

/-- The word of a moved object has no type. -/
theorem isForwarded_of_tid {word : HeaderWord} (h : word.tid ≠ .none) :
    word.isForwarded = false := by
  rw [← Bool.not_eq_true, isForwarded_iff]
  intro hzero
  exact h (congrArg HeaderFields.tid hzero)

/-- Header words refine records of fields. Words and records correspond one to one, each field at
    its own bits. Every run of operations on a word answers what the same run on its fields
    answers, and ends in the word of the fields that the other run ends in. A word is reachable
    when it is counted or marked, and it is the word of a moved object when all its fields are
    zero; so a run never makes it out of the header of an object that has a type, and never
    changes that type. A header made of fields has these fields, the count cut to its width. -/
theorem refines_fields (word : HeaderWord) (operations : List HeaderOperation) :
    ((runAll act word operations).map id fields =
        runAll HeaderFields.act word.fields operations) ∧
      (word.fields.word = word ∧ ∀ fields : HeaderFields, fields.word.fields = fields) ∧
      ((∀ i, word.fields.count.testBit i = word.raw.testBit (i + 24)) ∧
        word.fields.marked = word.raw.testBit 23 ∧ word.fields.young = word.raw.testBit 22 ∧
        (∀ i, word.fields.unused.testBit i = (decide (i < 2) && word.raw.testBit (i + 20))) ∧
        ∀ i, word.fields.tid.value.testBit i = (decide (i < 20) && word.raw.testBit i)) ∧
      (word.isReachable = true ↔ 0 < word.fields.count ∨ word.fields.marked = true) ∧
      (word.isForwarded = true ↔ word.fields = .zero) ∧
      (runAll act word operations).2.tid = word.tid ∧
      (word.tid ≠ .none → (runAll act word operations).2.isForwarded = false) ∧
      ∀ (tid : TypeId) (count : Nat) (marked young : Bool), tid.value ≤ TypeId.max →
        (new tid count marked young).fields.count = count % (maxCount + 1) ∧
          (new tid count marked young).fields.marked = marked ∧
          (new tid count marked young).fields.young = young ∧
          (new tid count marked young).fields.unused = 0 ∧
          (new tid count marked young).fields.tid = tid := by
  have htid := word.tid_runAll operations
  exact ⟨runAll_simulates act_fields operations word,
    ⟨word.word_fields, HeaderFields.fields_word⟩, word.testBit_fields, word.isReachable_iff,
    word.isForwarded_iff, htid,
    fun htype => isForwarded_of_tid fun hnone => htype (htid.symm.trans hnone),
    fun tid count marked young hle => fields_new hle count marked young⟩

/-- The header of a young object of the first declared type, one reference below the limit. -/
def nearLimit : HeaderWord :=
  new ⟨TypeId.firstDeclared⟩ (maxCount - 1) false true

/-- Steps over the limit and back. -/
def overLimit : List HeaderOperation :=
  [.increment, .increment, .setMarked true, .promote, .setCount (maxCount + 1), .decrement]

/-- The fields behind these steps. -/
def fieldsBehind : HeaderFields where
  count := maxCount - 1
  marked := true
  young := false
  unused := 0
  tid := ⟨TypeId.firstDeclared⟩

theorem refines_fields_of_overLimit :
    (runAll act nearLimit overLimit).1 =
        [.counted (some maxCount), .counted none, .done, .done, .accepted false,
          .counted (some (maxCount - 1))] ∧
      (runAll act nearLimit overLimit).2.fields = fieldsBehind ∧
      (runAll act nearLimit overLimit).2.isForwarded = false ∧
      nearLimit.fields.tid = ⟨TypeId.firstDeclared⟩ := by
  obtain ⟨hrun, -, -, -, -, -, hforwarded, hnew⟩ := refines_fields nearLimit overLimit
  have hfields : runAll HeaderFields.act nearLimit.fields overLimit =
      ([.counted (some maxCount), .counted none, .done, .done, .accepted false,
          .counted (some (maxCount - 1))], fieldsBehind) := by
    decide +kernel
  have hend := hrun.trans hfields
  obtain ⟨-, -, -, -, htid⟩ :=
    hnew ⟨TypeId.firstDeclared⟩ (maxCount - 1) false true (by decide)
  exact ⟨congrArg Prod.fst hend, congrArg Prod.snd hend, hforwarded (by decide), htid⟩

end HeaderWord

end ProgramImage
