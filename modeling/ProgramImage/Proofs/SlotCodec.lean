import ProgramImage.Proofs.StringForms

/-!
# Reading and writing string slots

The three forms of a slot are told apart by its bytes alone: sixteen zeros are the empty
string, a last byte that is not zero is the length of an inline string, and any other slot has
an object. So a slot that stands for a string is read back from its bytes, and no two such
slots have the same bytes. In the other direction every sixteen bytes are those of the slot
that is read from them, up to the bytes that an inline string leaves unused, unless they have
none of the three forms.

## Main definitions

* `StringSlot.IsMalformed` says of sixteen bytes that they have none of the three forms.
* `StringSlot.cleared` sets the unused bytes of an inline string to zero.

## Main statements

* `StringSlot.reads_and_writes` relates slots and bytes in both directions.
-/

namespace ProgramImage

namespace StringSlot

/-- The byte of a slot at a place. -/
def byteAt (bytes : List UInt8) (i : Nat) : UInt8 :=
  bytes.getD i 0

/-- The bytes of no slot: the last byte is above the length of the longest inline string, or it
    is zero and so is the reference, while the length is not. -/
def IsMalformed (bytes : List UInt8) : Prop :=
  maxInlineString < (byteAt bytes maxInlineString).toNat ∨
    byteAt bytes maxInlineString = 0 ∧ (∀ i < 8, byteAt bytes i = 0) ∧
      ∃ i, 8 ≤ i ∧ i < maxInlineString ∧ byteAt bytes i ≠ 0

/-- The bytes of a slot, where those between an inline string and its length are zero. -/
def cleared (bytes : List UInt8) : List UInt8 :=
  let tag := byteAt bytes maxInlineString
  bytes.mapIdx fun i byte => if tag ≠ 0 ∧ tag.toNat ≤ i ∧ i < maxInlineString then 0 else byte

/-- The bytes of a slot that stands for a string are sixteen. -/
theorem length_encode {slot : StringSlot} (h : slot.WellFormed) :
    slot.encode.length = stringSlotSize := by
  cases slot with
  | empty => rfl
  | inline content =>
    rw [encode, List.length_append, length_padded h.2]
    rfl
  | heap obj length =>
    rw [encode, List.length_append, LittleEndian.length_encode, LittleEndian.length_encode]
    rfl

/-- Slots that stand for strings differ in their bytes. -/
theorem encode_injective {slot other : StringSlot} (hslot : slot.WellFormed)
    (hother : other.WellFormed) (h : slot.encode = other.encode) : slot = other := by
  have hread : decode? slot.encode = some other := by rw [h, decode?_encode hother]
  rw [decode?_encode hslot] at hread
  exact Option.some.inj hread

/-- The short strings are those of one to fifteen bytes. -/
theorem ofShort?_eq_some_iff {content : List UInt8} {slot : StringSlot} :
    ofShort? content = some slot ↔
      (1 ≤ content.length ∧ content.length ≤ maxInlineString) ∧ slot = inline content := by
  unfold ofShort?
  rw [Option.ite_none_left_eq_some, Option.some.injEq]
  have hcondition : ¬(content.isEmpty || decide (content.length > maxInlineString)) = true ↔
      1 ≤ content.length ∧ content.length ≤ maxInlineString := by
    simp [Nat.one_le_iff_ne_zero]
  rw [hcondition, eq_comm (a := inline content)]

section Bytes

variable {bytes : List UInt8}

theorem byteAt_eq_getElem {i : Nat} (h : i < bytes.length) : byteAt bytes i = bytes[i] := by
  rw [byteAt, List.getD_eq_getElem?_getD, List.getElem?_eq_getElem h, Option.getD_some]

theorem byteAt_eq_zero {i : Nat} (h : ∀ byte ∈ bytes, byte = 0) : byteAt bytes i = 0 := by
  unfold byteAt
  rw [List.getD_eq_getElem?_getD]
  cases hbyte : bytes[i]? with
  | none => rfl
  | some byte => exact h byte (List.mem_of_getElem? hbyte)

/-- Bytes of which none differs from zero are zeros. -/
theorem forall_mem_of_byteAt {count : Nat} (hlength : bytes.length ≤ count)
    (h : ∀ i < count, byteAt bytes i = 0) : ∀ byte ∈ bytes, byte = 0 := by
  intro byte hbyte
  obtain ⟨i, hi, rfl⟩ := List.mem_iff_getElem.mp hbyte
  rw [← byteAt_eq_getElem hi]
  exact h i (Nat.lt_of_lt_of_le hi hlength)

/-- The reference word of a slot is null when its bytes are zeros. -/
theorem reference_eq_zero_iff :
    LittleEndian.decode (bytes.take 8) = 0 ↔ ∀ i < 8, byteAt bytes i = 0 := by
  have hbyte : ∀ i < 8, byteAt (bytes.take 8) i = byteAt bytes i := by
    intro i hi
    simp only [byteAt, List.getD_eq_getElem?_getD, List.getElem?_take_of_lt hi]
  rw [LittleEndian.decode_eq_zero_iff]
  constructor
  · intro h i hi
    rw [← hbyte i hi]
    exact byteAt_eq_zero h
  · intro h
    have hlength : (bytes.take 8).length ≤ 8 := List.length_take_le 8 bytes
    refine forall_mem_of_byteAt hlength fun i hi => ?_
    rw [hbyte i hi]
    exact h i hi

/-- The length of a heap string leaves room for a zero above it. -/
theorem length_lt_of_tag (hlength : bytes.length = stringSlotSize)
    (htag : byteAt bytes maxInlineString = 0) :
    LittleEndian.decode (bytes.drop 8) < 0x100000000000000 := by
  have hcount : (bytes.drop 8).length = 8 := by
    rw [List.length_drop, hlength]
    rfl
  have hlast : (bytes.drop 8).drop 7 = [0] := by
    have hplace : 15 < bytes.length := by
      rw [hlength]
      decide
    have hzero : bytes[15] = 0 := (byteAt_eq_getElem hplace).symm.trans htag
    have hbehind : bytes.drop 16 = [] := List.drop_eq_nil_of_le (Nat.le_of_eq hlength)
    rw [List.drop_drop, List.drop_eq_getElem_cons hplace, hzero, hbehind]
  have hsplit := LittleEndian.decode_append ((bytes.drop 8).take 7) ((bytes.drop 8).drop 7)
  have hlow := LittleEndian.decode_lt ((bytes.drop 8).take 7)
  have hseven : ((bytes.drop 8).take 7).length = 7 := by
    rw [List.length_take, hcount]
    rfl
  have hzero : LittleEndian.decode [0] = 0 := rfl
  rw [List.take_append_drop, hlast, hzero, Nat.mul_zero, Nat.add_zero] at hsplit
  rw [hsplit]
  rw [hseven] at hlow
  exact hlow

theorem cleared_of_tag_eq_zero (h : byteAt bytes maxInlineString = 0) : cleared bytes = bytes := by
  unfold cleared
  dsimp only
  rw [h]
  refine List.ext_getElem? fun i => ?_
  simp [List.getElem?_mapIdx]

/-- Bytes that are all zero are those of the empty string. -/
theorem decode?_of_zeros (hlength : bytes.length = stringSlotSize)
    (hzero : ∀ byte ∈ bytes, byte = 0) :
    ¬IsMalformed bytes ∧ decode? bytes = some empty ∧ cleared bytes = encode empty := by
  have htag : byteAt bytes maxInlineString = 0 := byteAt_eq_zero hzero
  refine ⟨?_, ?_, ?_⟩
  · rintro (hover | ⟨-, -, i, -, -, hne⟩)
    · rw [htag] at hover
      exact absurd hover (by decide)
    · exact hne (byteAt_eq_zero hzero)
  · have hall : bytes.all (· == 0) = true := by simpa using hzero
    unfold decode?
    dsimp only
    rw [if_pos hall]
  · rw [cleared_of_tag_eq_zero htag, encode, ← hlength]
    exact List.eq_replicate_iff.mpr ⟨rfl, hzero⟩

theorem wellFormed_inline_take (hlength : bytes.length = stringSlotSize)
    (htag : byteAt bytes maxInlineString ≠ 0)
    (hfits : (byteAt bytes maxInlineString).toNat ≤ maxInlineString) :
    (inline (bytes.take (byteAt bytes maxInlineString).toNat)).WellFormed := by
  have hcount : (bytes.take (byteAt bytes maxInlineString).toNat).length =
      (byteAt bytes maxInlineString).toNat := by
    rw [List.length_take, hlength]
    exact Nat.min_eq_left (Nat.le_succ_of_le hfits)
  have hpos : (byteAt bytes maxInlineString).toNat ≠ 0 :=
    fun hzero => htag (UInt8.toNat_inj.mp hzero)
  change 1 ≤ List.length _ ∧ List.length _ ≤ maxInlineString
  rw [hcount]
  exact ⟨Nat.pos_of_ne_zero hpos, hfits⟩

/-- A last byte that is not zero is the length of an inline string, if it can be one. -/
theorem decode?_of_tag (hlength : bytes.length = stringSlotSize)
    (htag : byteAt bytes maxInlineString ≠ 0) :
    (IsMalformed bytes ↔ maxInlineString < (byteAt bytes maxInlineString).toNat) ∧
      decode? bytes =
        if maxInlineString < (byteAt bytes maxInlineString).toNat then none
        else some (inline (bytes.take (byteAt bytes maxInlineString).toNat)) := by
  have hall : ¬bytes.all (· == 0) = true := by
    intro hall
    refine htag (byteAt_eq_zero ?_)
    simpa using hall
  refine ⟨⟨?_, .inl⟩, ?_⟩
  · rintro (hover | ⟨hzero, -⟩)
    · exact hover
    · exact absurd hzero htag
  · have hcases : decode? bytes =
        if (byteAt bytes maxInlineString).toNat > maxInlineString then none
        else ofShort? (bytes.take (byteAt bytes maxInlineString).toNat) := by
      unfold decode?
      dsimp only
      rw [if_neg hall]
      exact if_pos htag
    rw [hcases]
    by_cases hover : maxInlineString < (byteAt bytes maxInlineString).toNat
    · rw [if_pos hover, if_pos hover]
    · rw [if_neg hover, if_neg hover]
      exact ofShort?_eq_some_iff.mpr
        ⟨wellFormed_inline_take hlength htag (Nat.le_of_not_lt hover), rfl⟩

/-- The bytes of an inline string with its unused bytes cleared are those of its slot. -/
theorem encode_inline_take (hlength : bytes.length = stringSlotSize)
    (htag : byteAt bytes maxInlineString ≠ 0)
    (hfits : (byteAt bytes maxInlineString).toNat ≤ maxInlineString) :
    encode (inline (bytes.take (byteAt bytes maxInlineString).toNat)) = cleared bytes := by
  have hsize : bytes.length = 16 := hlength
  have hlast : bytes[15]? = some (byteAt bytes maxInlineString) := by
    rw [List.getElem?_eq_getElem (by omega)]
    exact congrArg some (byteAt_eq_getElem (by omega)).symm
  have hdefinition : cleared bytes = bytes.mapIdx fun i byte =>
      if byteAt bytes maxInlineString ≠ 0 ∧ (byteAt bytes maxInlineString).toNat ≤ i ∧
        i < maxInlineString then 0 else byte := rfl
  rw [hdefinition]
  generalize byteAt bytes maxInlineString = tag at *
  have hroom : tag.toNat ≤ 15 := hfits
  have hcount : (bytes.take tag.toNat).length = tag.toNat := by
    rw [List.length_take, hsize]
    omega
  have hunused : (List.replicate (maxInlineString - tag.toNat) (0 : UInt8)).length =
      15 - tag.toNat := List.length_replicate
  rw [encode, padded, hcount, UInt8.ofNat_toNat]
  refine List.ext_getElem? fun i => ?_
  rw [List.getElem?_mapIdx, List.append_assoc]
  -- the string, the unused bytes, the length, and what lies behind the slot
  rcases (by omega : i < tag.toNat ∨ tag.toNat ≤ i ∧ i < 15 ∨ i = 15 ∨ 16 ≤ i) with
    hcontent | ⟨hcontent, hpadding⟩ | rfl | hbehind
  · rw [List.getElem?_append_left (by omega), List.getElem?_take_of_lt hcontent]
    simp [Nat.not_le_of_lt hcontent]
  · have hbyte : i < bytes.length := by omega
    have hcleared : tag ≠ 0 ∧ tag.toNat ≤ i ∧ i < maxInlineString := ⟨htag, hcontent, hpadding⟩
    rw [List.getElem?_append_right (by omega), List.getElem?_append_left (by omega),
      List.getElem?_replicate_of_lt (by omega), List.getElem?_eq_getElem hbyte, Option.map_some,
      if_pos hcleared]
  · have hkept : ¬(tag ≠ 0 ∧ tag.toNat ≤ 15 ∧ 15 < maxInlineString) :=
      fun h => absurd h.2.2 (by decide)
    rw [List.getElem?_append_right (by omega), List.getElem?_append_right (by omega), hlast,
      Option.map_some, if_neg hkept, hcount, hunused, Nat.sub_self]
    rfl
  · have hnone : bytes[i]? = none := List.getElem?_eq_none (by omega)
    rw [hnone, Option.map_none, List.getElem?_eq_none_iff, List.length_append, List.length_append,
      hcount, hunused, List.length_singleton]
    omega

/-- A last byte that is zero leaves the slot of an object, if there is one. -/
theorem decode?_of_reference (hlength : bytes.length = stringSlotSize)
    (htag : byteAt bytes maxInlineString = 0) (hnonzero : ¬∀ byte ∈ bytes, byte = 0) :
    (IsMalformed bytes ↔ LittleEndian.decode (bytes.take 8) = 0) ∧
      decode? bytes = (ObjectRef.ofRaw? (LittleEndian.decode (bytes.take 8))).map fun obj =>
        heap obj (LittleEndian.decode (bytes.drop 8)) := by
  refine ⟨?_, ?_⟩
  · rw [reference_eq_zero_iff]
    constructor
    · rintro (hover | ⟨-, hreference, -⟩)
      · rw [htag] at hover
        exact absurd hover (by decide)
      · exact hreference
    · intro hreference
      refine .inr ⟨htag, hreference, ?_⟩
      -- otherwise all sixteen bytes were zeros
      by_contra hnone
      push Not at hnone
      have hcount : bytes.length ≤ 16 := Nat.le_of_eq hlength
      refine hnonzero (forall_mem_of_byteAt hcount fun i hi => ?_)
      rcases (by omega : i < 8 ∨ 8 ≤ i ∧ i < 15 ∨ i = 15) with hlow | ⟨hmiddle, hhigh⟩ | rfl
      · exact hreference i hlow
      · exact hnone i hmiddle hhigh
      · exact htag
  · have hall : ¬bytes.all (· == 0) = true := by simpa using hnonzero
    have hnot : ¬bytes.getD maxInlineString 0 ≠ 0 := not_not_intro htag
    unfold decode?
    dsimp only
    rw [if_neg hall, if_neg hnot]

theorem encode_heap (hlength : bytes.length = stringSlotSize) {place : Nat}
    (hplace : LittleEndian.decode (bytes.take 8) = place + 1) :
    encode (heap ⟨place⟩ (LittleEndian.decode (bytes.drop 8))) = bytes := by
  have hlow : (bytes.take 8).length = 8 := by
    rw [List.length_take, hlength]
    rfl
  have hhigh : (bytes.drop 8).length = 8 := by
    rw [List.length_drop, hlength]
    rfl
  have hreference := LittleEndian.encode_decode (bytes.take 8)
  have hcount := LittleEndian.encode_decode (bytes.drop 8)
  rw [hlow, hplace] at hreference
  rw [hhigh] at hcount
  rw [encode, ObjectRef.raw, hreference, hcount, List.take_append_drop]

/-- Sixteen bytes have one of the three forms, and then they are those of the slot that is read
    from them with its unused bytes cleared; or they are malformed. -/
theorem decode?_cases (hlength : bytes.length = stringSlotSize) :
    IsMalformed bytes ∧ decode? bytes = none ∨
      ¬IsMalformed bytes ∧ ∃ slot : StringSlot, decode? bytes = some slot ∧ slot.WellFormed ∧
        slot.encode = cleared bytes := by
  by_cases hzero : ∀ byte ∈ bytes, byte = 0
  · obtain ⟨hformed, hread, hcleared⟩ := decode?_of_zeros hlength hzero
    exact .inr ⟨hformed, empty, hread, trivial, hcleared.symm⟩
  by_cases htag : byteAt bytes maxInlineString = 0
  · obtain ⟨hformed, hread⟩ := decode?_of_reference hlength htag hzero
    rw [hformed, hread]
    cases hplace : LittleEndian.decode (bytes.take 8) with
    | zero => exact .inl ⟨rfl, rfl⟩
    | succ place =>
      refine .inr ⟨Nat.succ_ne_zero place, _, rfl, ⟨?_, length_lt_of_tag hlength htag⟩, ?_⟩
      · have hbound := LittleEndian.decode_lt (bytes.take 8)
        have hcount : (bytes.take 8).length = 8 := by
          rw [List.length_take, hlength]
          rfl
        rw [hcount, hplace] at hbound
        exact Nat.le_of_lt_succ hbound
      · rw [cleared_of_tag_eq_zero htag]
        exact encode_heap hlength hplace
  · obtain ⟨hformed, hread⟩ := decode?_of_tag hlength htag
    rw [hformed, hread]
    by_cases hover : maxInlineString < (byteAt bytes maxInlineString).toNat
    · exact .inl ⟨hover, if_pos hover⟩
    · have hfits := Nat.le_of_not_lt hover
      rw [if_neg hover]
      exact .inr ⟨hover, _, rfl, wellFormed_inline_take hlength htag hfits,
        encode_inline_take hlength htag hfits⟩

end Bytes

/-- Slots and bytes, in both directions: a slot that stands for a string is read back from its
    bytes, and shares them with no other such slot. Sixteen bytes read as no slot exactly when
    they are malformed; any others are those of the slot that is read, up to the bytes that an
    inline string leaves unused. The short strings, and no others, have an inline slot. -/
theorem reads_and_writes :
    (∀ slot : StringSlot, slot.WellFormed →
      slot.encode.length = stringSlotSize ∧ decode? slot.encode = some slot) ∧
    (∀ slot other : StringSlot, slot.WellFormed → other.WellFormed →
      slot.encode = other.encode → slot = other) ∧
    (∀ bytes : List UInt8, bytes.length = stringSlotSize →
      (decode? bytes = none ↔ IsMalformed bytes) ∧
      ∀ slot, decode? bytes = some slot → slot.WellFormed ∧ slot.encode = cleared bytes) ∧
    ∀ content : List UInt8,
      ((ofShort? content).isSome ↔ 1 ≤ content.length ∧ content.length ≤ maxInlineString) ∧
      ∀ slot, ofShort? content = some slot → slot.WellFormed ∧ slot = inline content ∧
        slot.encode = content ++ List.replicate (maxInlineString - content.length) 0 ++
          [UInt8.ofNat content.length] := by
  refine ⟨?_, ?_, ?_, ?_⟩
  · intro slot hslot
    exact ⟨length_encode hslot, decode?_encode hslot⟩
  · intro slot other hslot hother h
    exact encode_injective hslot hother h
  · intro bytes hlength
    rcases decode?_cases hlength with ⟨hformed, hread⟩ | ⟨hformed, slot, hread, hslot, hencode⟩
    · rw [hread]
      exact ⟨iff_of_true rfl hformed, nofun⟩
    · rw [hread]
      refine ⟨iff_of_false nofun hformed, ?_⟩
      rintro other ⟨⟩
      exact ⟨hslot, hencode⟩
  · intro content
    constructor
    · simp [Option.isSome_iff_exists, ofShort?_eq_some_iff]
    · intro slot hslot
      obtain ⟨hcontent, rfl⟩ := ofShort?_eq_some_iff.mp hslot
      exact ⟨hcontent, rfl, rfl⟩

/-- An inline string of three bytes, two of them zero, with other bytes left behind it. -/
def leftover : List UInt8 :=
  [0, 7, 0] ++ List.replicate 12 9 ++ [3]

/-- The slot of a string with the last reference word and the greatest length. -/
def farthest : StringSlot :=
  heap ⟨max64 - 1⟩ (0x100000000000000 - 1)

theorem reads_and_writes_of_leftover :
    (leftover.length = stringSlotSize ∧ decode? leftover = some (inline [0, 7, 0]) ∧
      (inline [0, 7, 0]).WellFormed ∧ encode (inline [0, 7, 0]) = cleared leftover) ∧
    (farthest.WellFormed ∧ decode? farthest.encode = some farthest ∧
      farthest.encode ≠ encode (inline [0, 7, 0])) ∧
    ofShort? [0, 7, 0] = some (inline [0, 7, 0]) ∧
      encode (inline [0, 7, 0]) = [0, 7, 0] ++ List.replicate 12 0 ++ [3] := by
  obtain ⟨hwrite, hinjective, hread, hshort⟩ := reads_and_writes
  have hlength : leftover.length = stringSlotSize := rfl
  have hleftover : decode? leftover = some (inline [0, 7, 0]) := by decide
  have hfarthest : farthest.WellFormed := by
    change max64 - 1 + 1 ≤ max64 ∧ 0x100000000000000 - 1 < 0x100000000000000
    decide
  obtain ⟨hslot, hcleared⟩ := (hread leftover hlength).2 _ hleftover
  obtain ⟨-, -, hbytes⟩ := (hshort [0, 7, 0]).2 _ rfl
  have hdistinct : farthest.encode ≠ encode (inline [0, 7, 0]) :=
    fun h => nomatch hinjective farthest _ hfarthest hslot h
  exact ⟨⟨hlength, hleftover, hslot, hcleared⟩,
    ⟨hfarthest, (hwrite farthest hfarthest).2, hdistinct⟩, rfl, hbytes⟩

end StringSlot

end ProgramImage
