import ProgramImage.Document.Basic
import ProgramImage.Proofs.LiteralValue
import ProgramImage.Proofs.StringForms
import ProgramImage.Proofs.TypeNames

/-!
# Layout of literals

What a literal of a document does to the memory of a program follows from the document:
its type name tells how many bytes it takes, and a string that is too long for its slot
takes one object of the heap. The objects stand in the order of the literals they
belong to, so the place of an object is the number of long strings before its own.

## Main definitions

* `LiteralRecord.Covers` says that a literal takes a byte of the global buffer.
* `LiteralRecord.Denotes` relates a literal to what its text stands for.
* `LiteralRecord.object?` is the heap object of a long string.
* `Literal.image` is what a value looks like in the global buffer.
* `longStringsBefore` counts the long strings in front of a literal.
* `IsLastOver` picks the literal that decides about a byte.
-/

namespace ProgramImage

/-- The bytes that the literals of each type take in the global buffer. -/
def literalWidths : List (String × Nat) :=
  [("None", 0), ("Nothing", 0), ("Bool", 1), ("Nat", 8), ("Int", 8), ("Float", 8),
   ("Decimal", 8), ("Regex", 8), ("BigNat", 16), ("BigInt", 16), ("String", 16)]

namespace Literal

/-- The bytes of a value in the global buffer. The object of a long string is at
    `place`. -/
def image (place : Nat) : Literal → List UInt8
  | unit => []
  | bool value => [if value then 1 else 0]
  | nat value => LittleEndian.encode 8 value
  | int value => LittleEndian.encodeInt 8 value
  | bigNat value => LittleEndian.encode 16 value
  | bigInt value => LittleEndian.encodeInt 16 value
  | float value => LittleEndian.encode 8 value.bits.toNat
  | regex id => LittleEndian.encode 8 id.value
  | string value => (StringSlot.ofContent place (Utf8.encode value.toList)).encode

/-- The heap object of a value, if it takes one. -/
def object? : Literal → Option HeapObject
  | string value => stringObject? (Utf8.encode value.toList)
  | _ => none

theorem Denotes.length_image {regexes : RegexTable} {text : String} {tid : TypeId}
    {value : Literal} (h : Denotes regexes text tid value) {name : String}
    (hname : reservedNames[tid.value]? = some name) (place : Nat) :
    (value.image place).length = (literalWidths.lookup name).getD 0 := by
  cases h with
  | none => cases hname; rfl
  | nothing => cases hname; rfl
  | bool => cases hname; rfl
  | nat => cases hname; exact LittleEndian.length_encode 8 _
  | int => cases hname; exact LittleEndian.length_encodeInt 8 _
  | bigNat => cases hname; exact LittleEndian.length_encode 16 _
  | bigInt => cases hname; exact LittleEndian.length_encodeInt 16 _
  | float => cases hname; exact LittleEndian.length_encode 8 _
  | decimal => cases hname; exact LittleEndian.length_encode 8 _
  | string => cases hname; exact StringSlot.length_encode_ofContent place _
  | regex => cases hname; exact LittleEndian.length_encode 8 _

/-- Only values of types with one value take no bytes. -/
theorem length_image_pos {value : Literal} (h : value ≠ unit) (place : Nat) :
    0 < (value.image place).length := by
  cases value with
  | unit => exact absurd rfl h
  | bool _ => exact Nat.one_pos
  | string _ => rw [image, StringSlot.length_encode_ofContent]; decide
  | int _ | bigInt _ => rw [image, LittleEndian.length_encodeInt]; decide
  | nat _ | bigNat _ | float _ | regex _ => rw [image, LittleEndian.length_encode]; decide

end Literal

namespace LiteralRecord

/-- The place of the first byte of a literal. -/
def start (record : LiteralRecord) : Nat :=
  record.offset.toNat

/-- The number of bytes that a literal takes in the global buffer. -/
def width (record : LiteralRecord) : Nat :=
  (literalWidths.lookup record.type).getD 0

/-- A literal takes the byte at a place of the global buffer. -/
def Covers (record : LiteralRecord) (j : Nat) : Prop :=
  record.start ≤ j ∧ j < record.start + record.width

instance (record : LiteralRecord) (j : Nat) : Decidable (record.Covers j) :=
  inferInstanceAs (Decidable (_ ∧ _))

/-- What the text of a literal stands for, by the reserved type that it names. -/
def Denotes (regexes : RegexTable) (record : LiteralRecord) (value : Literal) : Prop :=
  ∃ tid, reservedId? record.type = some tid ∧ Literal.Denotes regexes record.text tid value

/-- Whether a literal is a string. -/
def isString (record : LiteralRecord) : Bool :=
  record.type == "String"

/-- The bytes of a string literal, without its first and last character. -/
def content (record : LiteralRecord) : List UInt8 :=
  Utf8.encode record.text.toList.tail.dropLast

/-- Whether a literal is a string that a heap object holds, of 16 to 128 bytes. -/
def isLongString (record : LiteralRecord) : Bool :=
  record.isString && decide (16 ≤ record.content.length ∧ record.content.length ≤ 128)

/-- The heap object of a literal, if it takes one. -/
def object? (record : LiteralRecord) : Option HeapObject :=
  if record.isLongString then stringObject? record.content else none

variable {regexes : RegexTable} {record : LiteralRecord} {value : Literal}

theorem isString_iff : record.isString = true ↔ record.type = "String" :=
  beq_iff_eq

theorem width_of_isString (h : record.isString) : record.width = stringSlotSize := by
  rw [width, isString_iff.mp h]
  rfl

theorem isLongString_iff :
    record.isLongString = true ↔
      record.isString = true ∧ maxInlineString < record.content.length ∧
        record.content.length ≤ maxBufferString := by
  unfold isLongString
  rw [Bool.and_eq_true, decide_eq_true_iff]
  rfl

/-- A long string has a heap object, and no other literal has one. -/
@[simp] theorem isSome_object? (record : LiteralRecord) :
    record.object?.isSome = record.isLongString := by
  unfold object?
  by_cases hlong : record.isLongString = true
  · rw [if_pos hlong, hlong]
    exact isSome_stringObject?_iff.mpr (isLongString_iff.mp hlong).2
  · rw [if_neg hlong, Bool.eq_false_iff.mpr hlong]
    rfl

theorem Denotes.length_image (h : record.Denotes regexes value) (place : Nat) :
    (value.image place).length = record.width := by
  obtain ⟨tid, htid, hvalue⟩ := h
  exact hvalue.length_image (reservedId?_eq_some_iff.mp htid) place

theorem Denotes.unique {other : Literal} (h : record.Denotes regexes value)
    (hother : record.Denotes regexes other) : other = value := by
  obtain ⟨tid, htid, hvalue⟩ := h
  obtain ⟨same, hsame, hothers⟩ := hother
  obtain rfl : tid = same := Option.some.inj (htid.symm.trans hsame)
  exact hothers.unique hvalue

/-- A string literal stands for the text between its quotation marks. -/
theorem Denotes.of_isString (h : record.Denotes regexes value) (hstring : record.isString) :
    ∃ body, record.text.toList = '"' :: (body ++ ['"']) ∧ record.content = Utf8.encode body ∧
      record.content.length ≤ maxBufferString ∧ value = .string (String.ofList body) := by
  obtain ⟨tid, htid, hvalue⟩ := h
  rw [isString_iff.mp hstring] at htid
  obtain rfl : TypeId.string = tid := Option.some.inj htid
  cases hvalue with
  | @string body htext hlength =>
    have hcontent : record.content = Utf8.encode body := by
      rw [content, htext, List.tail_cons, List.dropLast_concat]
    exact ⟨body, htext, hcontent, by rwa [hcontent], rfl⟩

theorem Denotes.image_of_isString (h : record.Denotes regexes value)
    (hstring : record.isString) (place : Nat) :
    value.image place = (StringSlot.ofContent place record.content).encode := by
  obtain ⟨body, -, hcontent, -, rfl⟩ := h.of_isString hstring
  rw [hcontent, Literal.image, String.toList_ofList]

theorem Denotes.object?_of_not_isString (h : record.Denotes regexes value)
    (hstring : record.isString = false) : value.object? = none := by
  obtain ⟨tid, htid, hvalue⟩ := h
  cases hvalue with
  | string =>
    have hname : some "String" = some record.type := reservedId?_eq_some_iff.mp htid
    rw [isString, ← Option.some.inj hname] at hstring
    cases hstring
  | _ => rfl

theorem Denotes.object?_eq (h : record.Denotes regexes value) :
    value.object? = record.object? := by
  unfold object?
  by_cases hstring : record.isString = true
  · obtain ⟨body, -, hcontent, hlength, rfl⟩ := h.of_isString hstring
    have hobject : (Literal.string (String.ofList body)).object? =
        stringObject? record.content := by
      rw [hcontent, Literal.object?, String.toList_ofList]
    by_cases hshort : record.content.length ≤ maxInlineString
    · have hnot : ¬record.isLongString = true := by
        rw [isLongString_iff]
        omega
      rw [hobject, if_neg hnot, stringObject?_eq_none hshort]
    · rw [hobject, if_pos (isLongString_iff.mpr ⟨hstring, by omega, hlength⟩)]
  · have hnot : ¬record.isLongString = true := fun hlong => hstring (isLongString_iff.mp hlong).1
    rw [if_neg hnot, h.object?_of_not_isString (Bool.eq_false_iff.mpr hstring)]

end LiteralRecord

/-! ### Lists of literals -/

/-- The number of long strings among the first `i` literals. -/
def longStringsBefore (literals : List LiteralRecord) (i : Nat) : Nat :=
  (literals.take i).countP LiteralRecord.isLongString

/-- The `i`-th literal takes a byte of the global buffer, and no later one does. -/
def IsLastOver (literals : List LiteralRecord) (i j : Nat) : Prop :=
  (∃ record, literals[i]? = some record ∧ record.Covers j) ∧
    ∀ k later, i < k → literals[k]? = some later → ¬later.Covers j

/-- No literal after the `i`-th takes a byte that the `i`-th takes. -/
def IsKept (literals : List LiteralRecord) (i : Nat) : Prop :=
  ∀ record j, literals[i]? = some record → record.Covers j → IsLastOver literals i j

/-- A literal keeps its bytes when the later ones lie apart from it. -/
theorem isKept_of_apart {literals : List LiteralRecord} {i : Nat} {record : LiteralRecord}
    (hrecord : literals[i]? = some record)
    (hapart : ∀ later ∈ literals.drop (i + 1),
      later.start + later.width ≤ record.start ∨ record.start + record.width ≤ later.start) :
    IsKept literals i := by
  intro same j hsame hcovers
  obtain rfl : record = same := Option.some.inj (hrecord.symm.trans hsame)
  refine ⟨⟨record, hrecord, hcovers⟩, ?_⟩
  intro k later hk hlater hj
  have hmem : later ∈ literals.drop (i + 1) := by
    refine List.mem_of_getElem? (i := k - (i + 1)) ?_
    rw [List.getElem?_drop, Nat.add_sub_cancel' hk, hlater]
  unfold LiteralRecord.Covers at hcovers hj
  rcases hapart later hmem with hbefore | hbehind
  · omega
  · omega

/-- The heap objects of some literals, in the order of the literals. -/
def stringObjects (literals : List LiteralRecord) : List HeapObject :=
  literals.filterMap LiteralRecord.object?

/-- There is one heap object for every long string. -/
theorem length_stringObjects (literals : List LiteralRecord) :
    (stringObjects literals).length = literals.countP LiteralRecord.isLongString := by
  rw [stringObjects, List.length_filterMap_eq_countP]
  simp only [LiteralRecord.isSome_object?]

/-- The object of a long string stands behind those of the long strings before it. -/
theorem getElem?_stringObjects {literals : List LiteralRecord} {i : Nat}
    {record : LiteralRecord} (hrecord : literals[i]? = some record)
    (hlong : record.isLongString) :
    (stringObjects literals)[longStringsBefore literals i]? = record.object? := by
  obtain ⟨hi, hget⟩ := List.getElem?_eq_some_iff.mp hrecord
  obtain ⟨object, hobject⟩ : ∃ object, record.object? = some object :=
    Option.isSome_iff_exists.mp (by rw [LiteralRecord.isSome_object?, hlong])
  have hsplit : literals = literals.take i ++ record :: literals.drop (i + 1) := by
    rw [← hget, ← List.drop_eq_getElem_cons hi, List.take_append_drop]
  have hlength : (stringObjects (literals.take i)).length = longStringsBefore literals i :=
    length_stringObjects (literals.take i)
  have hobjects : stringObjects literals =
      stringObjects (literals.take i) ++ object :: stringObjects (literals.drop (i + 1)) := by
    conv => lhs; rw [hsplit]
    rw [stringObjects, List.filterMap_append, List.filterMap_cons_some hobject]
    rfl
  rw [hobjects, ← hlength, List.getElem?_append_right (Nat.le_refl _), Nat.sub_self, hobject]
  rfl

theorem longStringsBefore_cons (first : LiteralRecord) (rest : List LiteralRecord) (i : Nat) :
    longStringsBefore (first :: rest) (i + 1) =
      first.isLongString.toNat + longStringsBefore rest i := by
  unfold longStringsBefore
  rw [List.take_succ_cons, List.countP_cons, Nat.add_comm]
  cases first.isLongString <;> rfl

/-- The long strings before one are fewer than all of them. -/
theorem longStringsBefore_lt {literals : List LiteralRecord} {i : Nat} {record : LiteralRecord}
    (hrecord : literals[i]? = some record) (hlong : record.isLongString) :
    longStringsBefore literals i < literals.countP LiteralRecord.isLongString := by
  have hobject := getElem?_stringObjects hrecord hlong
  rw [← LiteralRecord.isSome_object?, ← hobject] at hlong
  obtain ⟨object, hsome⟩ := Option.isSome_iff_exists.mp hlong
  rw [← length_stringObjects]
  exact (List.getElem?_eq_some_iff.mp hsome).1

/-- Every number below that of the long strings is the number of long strings before one. -/
theorem exists_longString {literals : List LiteralRecord} {place : Nat}
    (h : place < literals.countP LiteralRecord.isLongString) :
    ∃ i record, literals[i]? = some record ∧ record.isLongString ∧
      longStringsBefore literals i = place := by
  induction literals generalizing place with
  | nil => cases h
  | cons first rest ih =>
    rw [List.countP_cons] at h
    by_cases hlong : first.isLongString = true
    · cases place with
      | zero => exact ⟨0, first, rfl, hlong, rfl⟩
      | succ place =>
        rw [if_pos hlong] at h
        obtain ⟨i, record, hrecord, hrecordLong, hplace⟩ := ih (Nat.lt_of_succ_lt_succ h)
        refine ⟨i + 1, record, hrecord, hrecordLong, ?_⟩
        rw [longStringsBefore_cons, hlong, hplace, Bool.toNat_true, Nat.add_comm]
    · rw [if_neg hlong] at h
      obtain ⟨i, record, hrecord, hrecordLong, hplace⟩ := ih h
      refine ⟨i + 1, record, hrecord, hrecordLong, ?_⟩
      rw [longStringsBefore_cons, Bool.eq_false_iff.mpr hlong, hplace, Bool.toNat_false,
        Nat.zero_add]

/-- The objects of the first literals come first. -/
theorem getElem?_stringObjects_take {literals : List LiteralRecord} {m place : Nat}
    (h : place < longStringsBefore literals m) :
    (stringObjects (literals.take m))[place]? = (stringObjects literals)[place]? := by
  have hlength : place < (stringObjects (literals.take m)).length := by
    rwa [length_stringObjects]
  conv => rhs; rw [← List.take_append_drop m literals]
  rw [stringObjects, stringObjects, List.filterMap_append]
  exact (List.getElem?_append_left hlength).symm

theorem longStringsBefore_le (literals : List LiteralRecord) (i : Nat) :
    longStringsBefore literals i ≤ i :=
  Nat.le_trans List.countP_le_length (List.length_take_le i literals)

theorem longStringsBefore_mono (literals : List LiteralRecord) {i k : Nat} (h : i ≤ k) :
    longStringsBefore literals i ≤ longStringsBefore literals k := by
  unfold longStringsBefore
  have htake : literals.take i = (literals.take k).take i := by
    rw [List.take_take, Nat.min_eq_left h]
  rw [htake]
  exact (List.take_sublist i _).countP_le

theorem longStringsBefore_succ {literals : List LiteralRecord} {i : Nat} {record : LiteralRecord}
    (h : literals[i]? = some record) :
    longStringsBefore literals (i + 1) =
      longStringsBefore literals i + record.isLongString.toNat := by
  unfold longStringsBefore
  rw [List.take_add_one, h, List.countP_append]
  cases hlong : record.isLongString <;> simp [hlong]

/-- The numbers of objects that two literals add do not overlap. -/
theorem eq_of_longStringsBefore_bounds {literals : List LiteralRecord} {i k place : Nat}
    (hilow : longStringsBefore literals i ≤ place)
    (hihigh : place < longStringsBefore literals (i + 1))
    (hklow : longStringsBefore literals k ≤ place)
    (hkhigh : place < longStringsBefore literals (k + 1)) : i = k := by
  rcases Nat.lt_trichotomy i k with hlt | heq | hgt
  · have hmono : longStringsBefore literals (i + 1) ≤ longStringsBefore literals k :=
      longStringsBefore_mono literals hlt
    omega
  · exact heq
  · have hmono : longStringsBefore literals (k + 1) ≤ longStringsBefore literals i :=
      longStringsBefore_mono literals hgt
    omega

/-- Different long strings have different numbers of long strings before them. -/
theorem longStringsBefore_inj {literals : List LiteralRecord} {i k : Nat}
    {first second : LiteralRecord} (hfirst : literals[i]? = some first)
    (hsecond : literals[k]? = some second) (hfirstLong : first.isLongString)
    (hsecondLong : second.isLongString)
    (h : longStringsBefore literals i = longStringsBefore literals k) : i = k := by
  have hi := longStringsBefore_succ hfirst
  have hk := longStringsBefore_succ hsecond
  rw [hfirstLong, Bool.toNat_true] at hi
  rw [hsecondLong, Bool.toNat_true] at hk
  apply eq_of_longStringsBefore_bounds (Nat.le_refl (longStringsBefore literals i)) <;> omega

end ProgramImage
