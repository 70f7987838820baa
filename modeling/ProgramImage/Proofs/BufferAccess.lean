import Mathlib.Data.Nat.Digits.Defs
import ProgramImage.Proofs.GlobalBuffer

/-!
# Accesses of the global buffer

The global buffer behaves as the list of its bytes. An access is admitted when its range ends
inside the buffer, counted without a limit, and counting in words of 64 bits refuses the same
ranges: an end that is carried out of the word lies behind every buffer. A write that is admitted
replaces the bytes of its range and no others, one that is refused changes nothing, and so each
byte is that of the last admitted write over it. The readers take their numbers from these bytes.

## Main definitions

* `GlobalWrite` is a request to write, and `GlobalStore.after` the buffer after some of them.
* `GlobalStore.latest?` is the byte that was written last to a place, and
  `GlobalStore.contentAfter` the content that the last writes leave.
* `GlobalStore.Presents` says that a buffer is accessed as a list of bytes.

## Main statements

* `GlobalStore.checkRange_words` tests a range in words of 64 bits.
* `GlobalStore.presents_toList` presents every buffer by its content.
* `GlobalStore.getElem?_apply` and `GlobalStore.getElem?_after` are a byte after one write and
  after a run.
* `GlobalStore.read_after_kept` reads back what no later write covers.
* `GlobalStore.accesses_after_writes` puts them together.
-/

namespace ProgramImage

namespace LittleEndian

/-- Bytes are the digits of their number in radix 256, the lowest first. -/
theorem decode_eq_ofDigits (bytes : List UInt8) :
    decode bytes = Nat.ofDigits 256 (bytes.map UInt8.toNat) := by
  induction bytes with
  | nil => rfl
  | cons byte rest ih => rw [decode, ih, List.map_cons, Nat.ofDigits_cons]

/-- In two's complement bytes stand for the integer next to zero that has their remainder. -/
theorem decodeInt_eq_bmod (bytes : List UInt8) :
    decodeInt bytes = Int.bmod (decode bytes) (bound bytes.length) := by
  have hlt := decode_lt bytes
  have hmod : (decode bytes : Int) % (bound bytes.length : Int) = decode bytes :=
    Int.emod_eq_of_lt (by omega) (by omega)
  have hcount : Nat.pow 256 bytes.length = bound bytes.length := rfl
  rw [Int.bmod_def, hmod, decodeInt, hcount]
  simp only [Int.ofNat_eq_natCast]
  split <;> split <;> omega

end LittleEndian

/-! ### Single accesses -/

namespace GlobalStore

variable {store : GlobalStore} {offset : Nat} {content : List UInt8}

/-- A range is admitted when its end can be counted in a word, which shows in that it is not below
    the start, and is not behind the end of the buffer. -/
theorem checkRange_words (hsize : store.size ≤ max64) (offset length : UInt64) :
    store.checkRange offset.toNat length.toNat =
      if offset ≤ offset + length ∧ offset + length ≤ UInt64.ofNat store.size then .ok ()
      else .error (.outOfBounds offset.toNat length.toNat store.size) := by
  have hword : (UInt64.ofNat store.size).toNat = store.size :=
    UInt64.toNat_ofNat_of_lt' (Nat.lt_succ_of_le hsize)
  have hadmits : offset.toNat + length.toNat ≤ store.size ↔
      offset ≤ offset + length ∧ offset + length ≤ UInt64.ofNat store.size := by
    have hoffset := offset.toNat_lt
    have hlength := length.toNat_lt
    -- a sum that is carried out of the word is smaller than both of its parts
    rw [UInt64.le_iff_toNat_le, UInt64.le_iff_toNat_le, UInt64.toNat_add, hword]
    unfold max64 at hsize
    omega
  simp only [checkRange, hadmits]

/-- A write replaces the bytes of its range, between those in front of it and those behind it. -/
theorem toList_overwrite (h : offset + content.length ≤ store.size) :
    (store.overwrite offset content).toList =
      store.toList.take offset ++ content ++ store.toList.drop (offset + content.length) := by
  have hlength := store.length_toList
  apply List.ext_getElem?
  intro j
  rw [getElem?_overwrite, List.append_assoc, List.getElem?_append, List.length_take,
    Nat.min_eq_left (by omega), List.getElem?_append]
  by_cases hbefore : j < offset
  · rw [if_neg (by omega), if_pos hbefore, List.getElem?_take_of_lt hbefore]
  by_cases hin : j < offset + content.length
  · rw [if_pos (by omega), if_neg hbefore, if_pos (by omega)]
  · have hplace : offset + content.length + (j - offset - content.length) = j := by omega
    rw [if_neg (by omega), if_neg hbefore, if_neg (by omega), List.getElem?_drop, hplace]

/-! ### The buffer as a list of bytes -/

/-- The value of the bytes in a range of some content, or the error that the range is refused
    with. -/
def valueAt {α : Type} (content : List UInt8) (offset length : Nat) (value : List UInt8 → α) :
    Except GlobalError α :=
  if offset + length ≤ content.length then .ok (value ((content.drop offset).take length))
  else .error (.outOfBounds offset length content.length)

/-- A buffer with a content is accessed as this list of bytes is. -/
structure Presents (store : GlobalStore) (content : List UInt8) : Prop where
  toList_eq : store.toList = content
  size_eq : store.size = content.length
  /-- A write succeeds when its end, counted without a limit, is inside the buffer. -/
  write_iff : ∀ offset bytes,
    (∃ later, store.write offset bytes = .ok later) ↔ offset + bytes.length ≤ content.length
  /-- It then changes the bytes of its range and nothing else. -/
  written : ∀ offset bytes later, store.write offset bytes = .ok later →
    later.toList = content.take offset ++ bytes ++ content.drop (offset + bytes.length) ∧
      later.size = store.size ∧ later.mask = store.mask
  /-- Any other write is refused, and changes nothing. -/
  refused : ∀ offset bytes, content.length < offset + bytes.length →
    store.write offset bytes =
        .error (.outOfBounds offset bytes.length content.length) ∧
      ∀ heap, (Memory.mk store heap).write offset bytes =
        (.error (.outOfBounds offset bytes.length content.length), ⟨store, heap⟩)
  /-- Words of 64 bits, whose sum may be carried, admit the same ranges. -/
  words : content.length ≤ max64 → ∀ offset length : UInt64,
    store.checkRange offset.toNat length.toNat =
      if offset ≤ offset + length ∧ offset + length ≤ UInt64.ofNat content.length then .ok ()
      else .error (.outOfBounds offset.toNat length.toNat content.length)
  read : ∀ offset length, store.read offset length = valueAt content offset length id
  readBool : ∀ offset, store.readBool offset = valueAt content offset 1 fun bytes => bytes != [0]
  readNat : ∀ width offset, store.readNat width offset =
    valueAt content offset width fun bytes => Nat.ofDigits 256 (bytes.map UInt8.toNat)
  readInt : ∀ width offset, store.readInt width offset =
    valueAt content offset width fun bytes =>
      Int.bmod (Nat.ofDigits 256 (bytes.map UInt8.toNat) : Nat) (LittleEndian.bound width)
  readString : ∀ offset, store.readString offset =
    valueAt content offset stringSlotSize StringSlot.decode?

theorem read_eq_valueAt (store : GlobalStore) (offset length : Nat) :
    store.read offset length = valueAt store.toList offset length id := by
  unfold valueAt
  by_cases hfits : offset + length ≤ store.size
  · rw [read_of_le hfits]
    exact (if_pos hfits).symm
  · rw [read_of_lt (Nat.lt_of_not_le hfits)]
    exact (if_neg hfits).symm

/-- A reader that looks at bytes of the right number only gives the value of those that it
    reads. -/
theorem map_read {α : Type} {value other : List UInt8 → α} {length : Nat}
    (hvalue : ∀ bytes : List UInt8, bytes.length = length → value bytes = other bytes)
    (store : GlobalStore) (offset : Nat) :
    (store.read offset length).map value = valueAt store.toList offset length other := by
  rw [read_eq_valueAt]
  unfold valueAt
  by_cases hfits : offset + length ≤ store.toList.length
  · have hlength : ((store.toList.drop offset).take length).length = length := by
      rw [List.length_take, List.length_drop]
      omega
    rw [if_pos hfits, if_pos hfits]
    exact congrArg Except.ok (hvalue _ hlength)
  · rw [if_neg hfits, if_neg hfits]
    rfl

theorem presents_toList (store : GlobalStore) : store.Presents store.toList where
  toList_eq := rfl
  size_eq := rfl
  write_iff offset bytes := by
    by_cases hfits : offset + bytes.length ≤ store.size
    · exact iff_of_true ⟨_, write_of_le hfits⟩ hfits
    · refine iff_of_false ?_ hfits
      rintro ⟨later, hlater⟩
      rw [write_of_lt (Nat.lt_of_not_le hfits)] at hlater
      cases hlater
  written offset bytes later h := by
    by_cases hfits : offset + bytes.length ≤ store.size
    · rw [write_of_le hfits] at h
      cases h
      exact ⟨toList_overwrite hfits, size_overwrite _ _ _, mask_overwrite _ _ _⟩
    · rw [write_of_lt (Nat.lt_of_not_le hfits)] at h
      cases h
  refused offset bytes h := ⟨write_of_lt h, fun _ => Memory.write_of_lt h⟩
  words hsize := checkRange_words hsize
  read := store.read_eq_valueAt
  readBool := map_read (fun _ _ => rfl) store
  readNat width := map_read (fun bytes _ => LittleEndian.decode_eq_ofDigits bytes) store
  readInt width := by
    apply map_read
    rintro bytes rfl
    rw [LittleEndian.decodeInt_eq_bmod, LittleEndian.decode_eq_ofDigits]
  readString := map_read (fun _ _ => rfl) store

end GlobalStore

/-! ### Runs of writes -/

/-- A request to write bytes from an offset on. -/
structure GlobalWrite where
  offset : Nat
  content : List UInt8

namespace GlobalWrite

/-- The end of the range of a write. -/
def stop (request : GlobalWrite) : Nat :=
  request.offset + request.content.length

/-- The range of a write holds a place. -/
def Covers (request : GlobalWrite) (place : Nat) : Prop :=
  request.offset ≤ place ∧ place < request.stop

/-- The byte that a write puts at a place of a buffer, if its range holds the place and ends
    inside the buffer. -/
def byte? (size : Nat) (request : GlobalWrite) (place : Nat) : Option UInt8 :=
  if request.stop ≤ size ∧ request.offset ≤ place then request.content[place - request.offset]?
  else none

/-- The buffer after a write. One that is refused leaves it. -/
def apply (store : GlobalStore) (request : GlobalWrite) : GlobalStore :=
  match store.write request.offset request.content with
  | .ok later => later
  | .error _ => store

/-- A write lies inside a buffer, and the ranges of all later writes lie apart from its own. -/
structure IsKept (size : Nat) (request : GlobalWrite) (later : List GlobalWrite) : Prop where
  inside : request.stop ≤ size
  apart : ∀ other ∈ later, ∀ place, request.Covers place → ¬other.Covers place

variable {store : GlobalStore} {request : GlobalWrite} {size place : Nat}

theorem apply_of_le (h : request.stop ≤ store.size) :
    request.apply store = store.overwrite request.offset request.content := by
  simp only [apply, GlobalStore.write_of_le h]

theorem apply_of_lt (h : store.size < request.stop) : request.apply store = store := by
  simp only [apply, GlobalStore.write_of_lt h]

@[simp] theorem size_apply (store : GlobalStore) (request : GlobalWrite) :
    (request.apply store).size = store.size := by
  by_cases hfits : request.stop ≤ store.size
  · rw [apply_of_le hfits, GlobalStore.size_overwrite]
  · rw [apply_of_lt (Nat.lt_of_not_le hfits)]

theorem byte?_of_not_covers (h : ¬request.Covers place) : request.byte? size place = none := by
  unfold Covers stop at h
  unfold byte?
  split
  · exact List.getElem?_eq_none (by omega)
  · rfl

end GlobalWrite

namespace GlobalStore

variable {store : GlobalStore} {size place : Nat}

/-- A write decides about the bytes of its range, and the others stay. -/
theorem getElem?_apply (store : GlobalStore) (request : GlobalWrite) (place : Nat) :
    (request.apply store).toList[place]? =
      (request.byte? store.size place).or store.toList[place]? := by
  by_cases hfits : request.stop ≤ store.size
  · rw [GlobalWrite.apply_of_le hfits, getElem?_overwrite]
    unfold GlobalWrite.stop at hfits
    by_cases hcovers : request.Covers place
    · unfold GlobalWrite.Covers GlobalWrite.stop at hcovers
      rw [if_pos ⟨hcovers.1, hcovers.2, by omega⟩, GlobalWrite.byte?, if_pos ⟨hfits, hcovers.1⟩,
        List.getElem?_eq_getElem (by omega), Option.some_or]
    · rw [GlobalWrite.byte?_of_not_covers hcovers, Option.none_or]
      unfold GlobalWrite.Covers GlobalWrite.stop at hcovers
      rw [if_neg (by omega)]
  · rw [GlobalWrite.apply_of_lt (Nat.lt_of_not_le hfits), GlobalWrite.byte?,
      if_neg (fun h => hfits h.1), Option.none_or]

/-- The buffer after some writes. -/
def after (store : GlobalStore) (writes : List GlobalWrite) : GlobalStore :=
  writes.foldl GlobalWrite.apply store

/-- The byte that was written last to a place of a buffer, if any was. -/
def latest? (size : Nat) (writes : List GlobalWrite) (place : Nat) : Option UInt8 :=
  writes.reverse.findSome? fun request => request.byte? size place

/-- The content that some writes leave: at each place the byte that was written last, or the one
    that was there before. -/
def contentAfter (store : GlobalStore) (writes : List GlobalWrite) : List UInt8 :=
  store.toList.mapIdx fun place byte => (latest? store.size writes place).getD byte

theorem latest?_cons (size : Nat) (first : GlobalWrite) (rest : List GlobalWrite) (place : Nat) :
    latest? size (first :: rest) place =
      (latest? size rest place).or (first.byte? size place) := by
  simp only [latest?, List.reverse_cons, List.findSome?_append, List.findSome?_singleton]

@[simp] theorem size_after (store : GlobalStore) (writes : List GlobalWrite) :
    (store.after writes).size = store.size := by
  induction writes generalizing store with
  | nil => rfl
  | cons first rest ih => exact (ih (first.apply store)).trans (GlobalWrite.size_apply store first)

/-- After a run a byte is that of the last write that put one there, or the old one. -/
theorem getElem?_after (store : GlobalStore) (writes : List GlobalWrite) (place : Nat) :
    (store.after writes).toList[place]? =
      (latest? store.size writes place).or store.toList[place]? := by
  induction writes generalizing store with
  | nil => rfl
  | cons first rest ih =>
    show ((first.apply store).after rest).toList[place]? = _
    rw [ih, GlobalWrite.size_apply, getElem?_apply, latest?_cons, Option.or_assoc]

theorem toList_after (store : GlobalStore) (writes : List GlobalWrite) :
    (store.after writes).toList = store.contentAfter writes := by
  apply List.ext_getElem?
  intro place
  rw [contentAfter, List.getElem?_mapIdx]
  by_cases hplace : place < store.toList.length
  · rw [getElem?_after, List.getElem?_eq_getElem hplace, Option.or_some, Option.map_some]
  · have hafter : (store.after writes).toList.length ≤ place := by
      rw [length_toList, size_after]
      exact Nat.le_of_not_lt hplace
    rw [List.getElem?_eq_none hafter, List.getElem?_eq_none (Nat.le_of_not_lt hplace),
      Option.map_none]

theorem latest?_of_not_covers {writes : List GlobalWrite}
    (h : ∀ request ∈ writes, ¬request.Covers place) : latest? size writes place = none := by
  apply List.findSome?_eq_none_iff.mpr
  intro request hrequest
  exact GlobalWrite.byte?_of_not_covers (h request (List.mem_reverse.mp hrequest))

/-- Bytes are read back when they were written inside the buffer and no later write covers one of
    them. -/
theorem read_after_kept (store : GlobalStore) (earlier : List GlobalWrite)
    {later : List GlobalWrite} {request : GlobalWrite} (h : request.IsKept store.size later) :
    (store.after (earlier ++ request :: later)).read request.offset request.content.length =
      .ok request.content := by
  have hsplit : store.after (earlier ++ request :: later) =
      (request.apply (store.after earlier)).after later := List.foldl_append
  rw [hsplit]
  apply read_eq_ok
  · rw [size_after, GlobalWrite.size_apply, size_after]
    exact h.inside
  · intro i hi
    have hcovers : request.Covers (request.offset + i) :=
      ⟨Nat.le_add_right _ _, Nat.add_lt_add_left hi _⟩
    have hlater : latest? store.size later (request.offset + i) = none :=
      latest?_of_not_covers fun other hother => h.apart other hother _ hcovers
    rw [getElem?_after, GlobalWrite.size_apply, size_after, hlater, Option.none_or,
      getElem?_apply, size_after, GlobalWrite.byte?, if_pos ⟨h.inside, hcovers.1⟩,
      Nat.add_sub_cancel_left, List.getElem?_eq_getElem hi, Option.some_or]

/-- After any writes the buffer is accessed as the list of the bytes that were written last to each
    place, and it keeps its size. Above all, a number is read back when its bytes were written
    inside the buffer and every later write was to another range. -/
theorem accesses_after_writes (store : GlobalStore) :
    (∀ writes, (store.after writes).Presents (store.contentAfter writes) ∧
      (store.after writes).size = store.size) ∧
    ∀ earlier later request, request.IsKept store.size later →
      (∀ width n, n < LittleEndian.bound width → request.content = LittleEndian.encode width n →
        (store.after (earlier ++ request :: later)).readNat width request.offset = .ok n) ∧
      ∀ width i, -(LittleEndian.bound width : Int) ≤ 2 * i → 2 * i < LittleEndian.bound width →
        request.content = LittleEndian.encodeInt width i →
        (store.after (earlier ++ request :: later)).readInt width request.offset = .ok i := by
  constructor
  · intro writes
    have hpresents := (store.after writes).presents_toList
    rw [toList_after] at hpresents
    exact ⟨hpresents, store.size_after writes⟩
  · intro earlier later request hkept
    have hread := store.read_after_kept earlier hkept
    constructor
    · intro width n hn hcontent
      rw [hcontent, LittleEndian.length_encode] at hread
      exact readNat_encode hn hread
    · intro width i hlow hhigh hcontent
      rw [hcontent, LittleEndian.length_encodeInt] at hread
      exact readInt_encode hlow hhigh hread

/-- In a buffer of sixteen bytes a number is written over the first half of some bytes. Of the
    later writes one lies behind it, one ends above the largest address, and one has no bytes. -/
theorem accesses_after_overlapping_writes :
    let store : GlobalStore := .zeros 16 ⟨[]⟩
    let request : GlobalWrite := ⟨0, LittleEndian.encode 8 300⟩
    let later : List GlobalWrite := [⟨12, [9]⟩, ⟨2 ^ 64 - 1, [1, 2]⟩, ⟨3, []⟩]
    let writes := [⟨4, [1, 2, 3, 4, 5, 6, 7, 8]⟩] ++ request :: later
    request.IsKept store.size later ∧
      (store.after writes).readNat 8 0 = .ok 300 ∧
      (store.after writes).readNat 8 8 = .ok 0x0908070605 ∧
      (store.after writes).readInt 8 12 = .error (.outOfBounds 12 8 16) ∧
      (store.after writes).write (2 ^ 64 - 1) [1, 2] = .error (.outOfBounds (2 ^ 64 - 1) 2 16) ∧
      (store.after writes).checkRange (2 ^ 64 - 1) 2 = .error (.outOfBounds (2 ^ 64 - 1) 2 16) := by
  intro store request later writes
  obtain ⟨hruns, hnumbers⟩ := accesses_after_writes store
  obtain ⟨hpresents, -⟩ := hruns writes
  have hkept : request.IsKept store.size later := by
    refine ⟨by decide, ?_⟩
    intro other hother place hcovers hcoversOther
    obtain ⟨-, hplace⟩ : 0 ≤ place ∧ place < 8 := hcovers
    obtain ⟨hstart, hstop⟩ := hcoversOther
    rcases (by simpa [later] using hother : other = _ ∨ other = _ ∨ other = _) with
      rfl | rfl | rfl
    · exact absurd (Nat.lt_of_le_of_lt hstart hplace) (by decide)
    · exact absurd (Nat.lt_of_le_of_lt hstart hplace) (by decide)
    · exact absurd (Nat.lt_of_le_of_lt hstart hstop) (by decide)
  have hlength : (store.contentAfter writes).length = 16 := by decide +kernel
  refine ⟨hkept, ?_, ?_, ?_, ?_, ?_⟩
  · exact (hnumbers _ later request hkept).1 8 300 (by decide) rfl
  · exact (hpresents.readNat 8 8).trans (by decide +kernel)
  · exact (hpresents.readInt 8 12).trans (by decide +kernel)
  · have hrefused := hpresents.refused (2 ^ 64 - 1) [1, 2] (by rw [hlength]; decide)
    rw [hlength] at hrefused
    exact hrefused.1
  · have hwords := hpresents.words (by rw [hlength]; decide) 0xFFFFFFFFFFFFFFFF 2
    rw [hlength] at hwords
    exact hwords.trans (by decide)

end GlobalStore

end ProgramImage
