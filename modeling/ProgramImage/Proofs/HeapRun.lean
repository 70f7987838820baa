import Mathlib.Algebra.BigOperators.Group.List.Basic
import Mathlib.Algebra.GroupWithZero.Nat
import ProgramImage.Heap
import ProgramImage.Proofs.HeaderFields

/-!
# Runs of a heap

A heap starts empty and is asked for objects, given limits and told to change headers. However
these requests are mixed, its objects are numbered from one on in the order they were granted,
each has the payload it was granted with, and the bytes allocated are those of all objects. A
request is refused for one of four reasons, looked for in a fixed order, and then changes nothing.

## Main definitions

* `Heap.refusal?` is the first reason to refuse an object, and `Heap.grown` the heap with one more.
* `HeapOperation` is a request, `Heap.after` the heap after some of them, and `Heap.granted` lists
  the objects they were granted.
* `Heap.Holds` says that a heap holds just these objects, and `Heap.Answers` how it takes the next
  request.

## Main statements

* `Heap.allocate_eq` is the outcome of an allocation.
* `Heap.Holds.step` and `Heap.Holds.run` keep the invariant.
* `Heap.holds_granted` is the state after any run.
-/

namespace ProgramImage

/-! ### One allocation -/

/-- The object that is granted for a payload: the header is that of a new object, and zeros follow
    the payload. -/
def TypeDescriptor.newObject (desc : TypeDescriptor) (payload : List UInt8) : HeapObject :=
  ⟨.ofYoung desc.tid, payload ++ List.replicate (desc.size.heapSize - payload.length) 0⟩

theorem TypeDescriptor.footprint_newObject {desc : TypeDescriptor} {payload : List UInt8}
    (h : payload.length ≤ desc.size.heapSize) :
    (desc.newObject payload).footprint = desc.size.heapSize + wordSize := by
  unfold newObject HeapObject.footprint
  rw [List.length_append, List.length_replicate, Nat.add_sub_cancel' h]

namespace Heap

variable {heap later : Heap} {desc : TypeDescriptor} {payload : List UInt8} {obj : ObjectRef}
  {error : HeapError}

/-- What may speak against an allocation, in the order in which it is looked for. -/
def refusals (heap : Heap) (desc : TypeDescriptor) (payload : List UInt8) :
    List (Bool × HeapError) :=
  [(desc.tid == .none, .nullTypeId),
    (!desc.hasHeapForm, .noHeapForm desc.tid desc.name),
    (desc.size.heapSize < payload.length,
      .payloadTooLarge desc.name payload.length desc.size.heapSize),
    (0 < heap.limit && heap.limit < heap.allocatedBytes + (desc.size.heapSize + wordSize),
      .limitExceeded heap.limit)]

/-- The first thing that speaks against an allocation. -/
def refusal? (heap : Heap) (desc : TypeDescriptor) (payload : List UInt8) : Option HeapError :=
  ((heap.refusals desc payload).find? Prod.fst).map Prod.snd

/-- The heap with one more object. -/
def grown (heap : Heap) (desc : TypeDescriptor) (payload : List UInt8) : Heap :=
  { heap with
    objects := heap.objects.push (desc.newObject payload)
    allocatedBytes := heap.allocatedBytes + (desc.size.heapSize + wordSize) }

/-- An allocation reports the first thing that speaks against it, and else adds an object. -/
theorem allocate_eq (heap : Heap) (desc : TypeDescriptor) (payload : List UInt8) :
    heap.allocate desc payload =
      match heap.refusal? desc payload with
      | some error => .error error
      | none => .ok (⟨heap.count⟩, heap.grown desc payload) := by
  unfold allocate refusal? refusals
  -- one case for each reason, under the assumption that the ones before it do not apply
  by_cases htid : desc.tid = .none
  · simp [htid]
  by_cases hform : desc.hasHeapForm
  swap
  · simp [htid, hform]
  by_cases hlength : desc.size.heapSize < payload.length
  · simp [htid, hform, hlength]
  by_cases hlimit :
      0 < heap.limit ∧ heap.limit < heap.allocatedBytes + (desc.size.heapSize + wordSize)
  · simp [htid, hform, hlength, hlimit]
  · simp [htid, hform, hlength, hlimit]
    rfl

theorem allocate_eq_error_iff :
    heap.allocate desc payload = .error error ↔ heap.refusal? desc payload = some error := by
  rw [allocate_eq]
  cases heap.refusal? desc payload <;> simp

theorem allocate_eq_ok_iff :
    heap.allocate desc payload = .ok (obj, later) ↔
      heap.refusal? desc payload = none ∧ obj = ⟨heap.count⟩ ∧
        later = heap.grown desc payload := by
  rw [allocate_eq]
  cases heap.refusal? desc payload <;> simp [eq_comm]

theorem refusal?_eq_none_iff :
    heap.refusal? desc payload = none ↔
      desc.tid ≠ .none ∧ desc.hasHeapForm = true ∧ payload.length ≤ desc.size.heapSize ∧
        (0 < heap.limit → heap.allocatedBytes + (desc.size.heapSize + wordSize) ≤ heap.limit) := by
  simp [refusal?, refusals]

/-- The bytes allocated are those of all objects. -/
def IsAccounted (heap : Heap) : Prop :=
  heap.allocatedBytes = (heap.objects.toList.map HeapObject.footprint).sum

theorem IsAccounted.grown (h : heap.IsAccounted) (hlength : payload.length ≤ desc.size.heapSize) :
    (heap.grown desc payload).IsAccounted := by
  unfold IsAccounted Heap.grown
  rw [Array.toList_push, List.map_append, List.sum_append, ← h, List.map_singleton,
    List.sum_singleton, TypeDescriptor.footprint_newObject hlength]

/-- Changing a header changes no other part of an object. -/
theorem map_setHeader {Part : Type} (part : HeapObject → Part)
    (hpart : ∀ object header, part { object with header } = part object) (heap : Heap)
    (obj : ObjectRef) (header : HeaderWord) :
    (heap.setHeader obj header).objects.toList.map part = heap.objects.toList.map part := by
  rw [setHeader, Array.toList_modify]
  apply List.ext_getElem?
  intro place
  rw [List.getElem?_map, List.getElem?_map, List.getElem?_modify]
  cases heap.objects.toList[place]? with
  | none => rfl
  | some object =>
    by_cases hplace : obj.place = place
    · simp [hplace, hpart]
    · simp [hplace]

theorem count_setHeader (heap : Heap) (obj : ObjectRef) (header : HeaderWord) :
    (heap.setHeader obj header).count = heap.count :=
  Array.size_modify

theorem IsAccounted.setHeader (h : heap.IsAccounted) (obj : ObjectRef) (header : HeaderWord) :
    (heap.setHeader obj header).IsAccounted := by
  have hfootprints := heap.map_setHeader HeapObject.footprint (fun _ _ => rfl) obj header
  exact h.trans (congrArg List.sum hfootprints.symm)

end Heap

/-! ### Runs -/

/-- A request to a heap. -/
inductive HeapOperation where
  | allocate (desc : TypeDescriptor) (payload : List UInt8)
  | setLimit (limit : Nat)
  | setHeader (obj : ObjectRef) (header : HeaderWord)

/-- An object that was granted: its type and its payload at that time, and its reference. -/
structure Grant where
  desc : TypeDescriptor
  payload : List UInt8
  obj : ObjectRef

/-- The payload that a granted object keeps: zeros fill it up to the heap size of its type. -/
def Grant.contents (grant : Grant) : List UInt8 :=
  grant.payload ++ List.replicate (grant.desc.size.heapSize - grant.payload.length) 0

namespace HeapOperation

/-- The heap after a request. One that is refused leaves it. -/
def apply (heap : Heap) : HeapOperation → Heap
  | allocate desc payload =>
    match heap.allocate desc payload with
    | .ok (_, later) => later
    | .error _ => heap
  | setLimit limit => heap.setLimit limit
  | setHeader obj header => heap.setHeader obj header

/-- The object that a request is granted, if it asks for one and is not refused. -/
def grant? (heap : Heap) : HeapOperation → Option Grant
  | allocate desc payload =>
    match heap.allocate desc payload with
    | .ok (obj, _) => some ⟨desc, payload, obj⟩
    | .error _ => none
  | setLimit _ => none
  | setHeader .. => none

section

variable {heap later : Heap} {desc : TypeDescriptor} {payload : List UInt8} {obj : ObjectRef}
  {error : HeapError}

theorem apply_of_ok (h : heap.allocate desc payload = .ok (obj, later)) :
    (allocate desc payload).apply heap = later := by
  simp only [apply, h]

theorem apply_of_error (h : heap.allocate desc payload = .error error) :
    (allocate desc payload).apply heap = heap := by
  simp only [apply, h]

theorem grant?_of_ok (h : heap.allocate desc payload = .ok (obj, later)) :
    (allocate desc payload).grant? heap = some ⟨desc, payload, obj⟩ := by
  simp only [grant?, h]

theorem grant?_of_error (h : heap.allocate desc payload = .error error) :
    (allocate desc payload).grant? heap = none := by
  simp only [grant?, h]

end

/-- The limit that a request sets. -/
def limit? : HeapOperation → Option Nat
  | setLimit limit => some limit
  | allocate .. => none
  | setHeader .. => none

end HeapOperation

namespace Heap

variable {heap later : Heap} {desc : TypeDescriptor} {payload : List UInt8} {obj : ObjectRef}
  {error : HeapError}

/-- The heap after some requests. -/
def after (heap : Heap) (operations : List HeapOperation) : Heap :=
  operations.foldl HeapOperation.apply heap

/-- The objects that some requests are granted, in order. -/
def granted (heap : Heap) : List HeapOperation → List Grant
  | [] => []
  | operation :: operations =>
    (operation.grant? heap).toList ++ (operation.apply heap).granted operations

/-- A heap holds the granted objects and no others. -/
structure Holds (heap : Heap) (grants : List Grant) : Prop where
  /-- The references count up from one. -/
  numbered : grants.map (fun grant => grant.obj.raw) = List.range' 1 heap.count
  /-- Each object has the payload that it was granted with. -/
  stored : heap.objects.toList.map HeapObject.data = grants.map Grant.contents
  /-- No payload was longer than the heap form of its type. -/
  fits : ∀ grant ∈ grants, grant.payload.length ≤ grant.desc.size.heapSize
  accounted : heap.IsAccounted

theorem Holds.empty (limit : Nat) : (Heap.empty limit).Holds [] where
  numbered := rfl
  stored := rfl
  fits := nofun
  accounted := rfl

theorem Holds.setHeader {grants : List Grant} (h : heap.Holds grants) (obj : ObjectRef)
    (header : HeaderWord) : (heap.setHeader obj header).Holds grants where
  numbered := by rw [count_setHeader, h.numbered]
  stored := (heap.map_setHeader HeapObject.data (fun _ _ => rfl) obj header).trans h.stored
  fits := h.fits
  accounted := h.accounted.setHeader obj header

theorem Holds.grown {grants : List Grant} (h : heap.Holds grants)
    (hlength : payload.length ≤ desc.size.heapSize) :
    (heap.grown desc payload).Holds (grants ++ [⟨desc, payload, ⟨heap.count⟩⟩]) where
  numbered := by
    have hcount : (heap.grown desc payload).count = heap.count + 1 := Array.size_push _
    rw [hcount, List.range'_1_concat, List.map_append, h.numbered, Nat.add_comm 1]
    rfl
  stored := by
    rw [Heap.grown, Array.toList_push, List.map_append, List.map_append, h.stored]
    rfl
  fits := by
    intro grant hgrant
    rcases List.mem_append.mp hgrant with hgrant | hgrant
    · exact h.fits grant hgrant
    · cases List.mem_singleton.mp hgrant
      exact hlength
  accounted := h.accounted.grown hlength

/-- A request adds the object it is granted and keeps the others. -/
theorem Holds.step {grants : List Grant} (h : heap.Holds grants) (operation : HeapOperation) :
    (operation.apply heap).Holds (grants ++ (operation.grant? heap).toList) := by
  cases operation with
  | allocate desc payload =>
    cases hallocate : heap.allocate desc payload with
    | error error =>
      rw [HeapOperation.apply_of_error hallocate, HeapOperation.grant?_of_error hallocate,
        Option.toList_none, List.append_nil]
      exact h
    | ok result =>
      obtain ⟨obj, later⟩ := result
      rw [HeapOperation.apply_of_ok hallocate, HeapOperation.grant?_of_ok hallocate]
      obtain ⟨hnone, rfl, rfl⟩ := allocate_eq_ok_iff.mp hallocate
      obtain ⟨-, -, hlength, -⟩ := refusal?_eq_none_iff.mp hnone
      exact h.grown hlength
  | setLimit limit =>
    show (heap.setLimit limit).Holds (grants ++ [])
    rw [List.append_nil]
    exact ⟨h.numbered, h.stored, h.fits, h.accounted⟩
  | setHeader obj header =>
    show (heap.setHeader obj header).Holds (grants ++ [])
    rw [List.append_nil]
    exact h.setHeader obj header

/-- A run adds the objects it is granted, in order. -/
theorem Holds.run {grants : List Grant} (h : heap.Holds grants)
    (operations : List HeapOperation) :
    (heap.after operations).Holds (grants ++ heap.granted operations) := by
  induction operations generalizing heap grants with
  | nil =>
    rw [granted, List.append_nil]
    exact h
  | cons operation operations ih =>
    rw [granted, ← List.append_assoc]
    exact ih (h.step operation)

theorem granted_append (heap : Heap) (operations more : List HeapOperation) :
    heap.granted (operations ++ more) =
      heap.granted operations ++ (heap.after operations).granted more := by
  induction operations generalizing heap with
  | nil => rfl
  | cons operation operations ih =>
    rw [List.cons_append, granted, granted, ih, List.append_assoc]
    rfl

/-- An object of the grants is found by its reference, with its payload. -/
theorem Holds.exists_object {grants : List Grant} (h : heap.Holds grants) {grant : Grant}
    (hgrant : grant ∈ grants) :
    ∃ object, heap.get? grant.obj = some object ∧ object.data = grant.contents := by
  -- objects are numbered in order, so a grant has the place of its object
  obtain ⟨place, hplace⟩ := List.mem_iff_getElem?.mp hgrant
  have hraw : (List.range' 1 heap.count)[place]? = some (grant.obj.place + 1) := by
    rw [← h.numbered, List.getElem?_map, hplace]
    rfl
  have hdata : (heap.objects.toList.map HeapObject.data)[place]? = some grant.contents := by
    rw [h.stored, List.getElem?_map, hplace]
    rfl
  obtain ⟨_, hnumber⟩ := List.getElem?_eq_some_iff.mp hraw
  rw [List.getElem_range'] at hnumber
  rw [List.getElem?_map, Option.map_eq_some_iff] at hdata
  obtain ⟨object, hobject, hcontents⟩ := hdata
  obtain rfl : place = grant.obj.place := by omega
  exact ⟨object, by simpa [get?] using hobject, hcontents⟩

/-- A word refers to an object when it counts one. -/
theorem get?_ofRaw?_isSome_iff (heap : Heap) (word : Nat) :
    ((ObjectRef.ofRaw? word).bind heap.get?).isSome = true ↔ 1 ≤ word ∧ word ≤ heap.count := by
  cases word with
  | zero => simp [ObjectRef.ofRaw?]
  | succ place =>
    have hfound : ((ObjectRef.ofRaw? (place + 1)).bind heap.get?).isSome = true ↔
        place < heap.objects.size := by simp [ObjectRef.ofRaw?, get?]
    exact hfound.trans ⟨fun hlt => ⟨Nat.succ_pos place, hlt⟩, fun hle => hle.2⟩

/-- The limit in force is the one set last. -/
theorem limit_after (heap : Heap) (operations : List HeapOperation) :
    (heap.after operations).limit =
      (operations.filterMap HeapOperation.limit?).getLastD heap.limit := by
  induction operations generalizing heap with
  | nil => rfl
  | cons operation operations ih =>
    refine (ih (operation.apply heap)).trans ?_
    cases operation with
    | allocate desc payload =>
      have hlimit : ((HeapOperation.allocate desc payload).apply heap).limit = heap.limit := by
        cases hallocate : heap.allocate desc payload with
        | error error => rw [HeapOperation.apply_of_error hallocate]
        | ok result =>
          rw [HeapOperation.apply_of_ok hallocate, (allocate_eq_ok_iff.mp hallocate).2.2]
          rfl
      rw [hlimit]
      rfl
    | setLimit limit => exact (List.getLastD_cons ..).symm
    | setHeader obj header => rfl

/-- How a heap takes a request for an object. -/
structure Answers (heap : Heap) (desc : TypeDescriptor) (payload : List UInt8) : Prop where
  /-- A request fails for one of four reasons and for no other. -/
  fails_iff : (∃ error, heap.allocate desc payload = .error error) ↔
    desc.tid = .none ∨ desc.hasHeapForm = false ∨ desc.size.heapSize < payload.length ∨
      (0 < heap.limit ∧ heap.limit < heap.allocatedBytes + (desc.size.heapSize + wordSize))
  /-- It reports the first of them. -/
  error_iff : ∀ error,
    heap.allocate desc payload = .error error ↔ heap.refusal? desc payload = some error
  /-- It then changes nothing. -/
  kept : ∀ error, heap.allocate desc payload = .error error →
    (HeapOperation.allocate desc payload).apply heap = heap
  /-- Otherwise the next number is granted, to a new object with the payload, and the limit
      holds. -/
  granted : ∀ obj later, heap.allocate desc payload = .ok (obj, later) →
    obj.raw = heap.count + 1 ∧ later.count = heap.count + 1 ∧
      (0 < heap.limit → later.allocatedBytes ≤ heap.limit) ∧
      ∃ object, later.get? obj = some object ∧
        object.data = payload ++ List.replicate (desc.size.heapSize - payload.length) 0 ∧
        (desc.tid.value ≤ TypeId.max → object.header.tid = desc.tid ∧ object.header.count = 0 ∧
          object.header.marked = false ∧ object.header.young = true)

theorem answers (heap : Heap) (desc : TypeDescriptor) (payload : List UInt8) :
    heap.Answers desc payload where
  fails_iff := by
    have hrefused : (∃ error, heap.allocate desc payload = .error error) ↔
        ¬heap.refusal? desc payload = none := by
      simp only [allocate_eq_error_iff]
      exact Option.ne_none_iff_exists'.symm
    rw [hrefused, refusal?_eq_none_iff]
    simp only [not_and_or, not_not, Bool.not_eq_true, Nat.not_le, Classical.not_imp, ne_eq]
  error_iff error := allocate_eq_error_iff
  kept error herror := HeapOperation.apply_of_error herror
  granted := by
    intro obj later hallocate
    obtain ⟨hnone, rfl, rfl⟩ := allocate_eq_ok_iff.mp hallocate
    obtain ⟨-, -, -, hlimit⟩ := refusal?_eq_none_iff.mp hnone
    refine ⟨rfl, Array.size_push _, hlimit, desc.newObject payload, ?_, rfl, ?_⟩
    · exact Array.getElem?_push_size
    · exact HeaderWord.ofYoung_fields

/-- After any run of requests, a heap that started empty holds the objects it granted: they are
    numbered from one on, a word refers to one of them when it is such a number, each has its
    payload for ever, and the bytes allocated are those of all. It takes the next request as the
    limit set last tells it to. -/
theorem holds_granted (limit : Nat) (operations : List HeapOperation) :
    ((empty limit).after operations).Holds ((empty limit).granted operations) ∧
      (∀ word, ((ObjectRef.ofRaw? word).bind ((empty limit).after operations).get?).isSome = true ↔
        1 ≤ word ∧ word ≤ ((empty limit).after operations).count) ∧
      (∀ more, ∀ grant ∈ (empty limit).granted operations, ∃ object,
        ((empty limit).after (operations ++ more)).get? grant.obj = some object ∧
          object.data = grant.contents) ∧
      ((empty limit).after operations).limit =
        (operations.filterMap HeapOperation.limit?).getLastD limit ∧
      ∀ desc payload, ((empty limit).after operations).Answers desc payload := by
  refine ⟨(Holds.empty limit).run operations, get?_ofRaw?_isSome_iff _, ?_, limit_after _ _,
    answers _⟩
  intro more grant hgrant
  have hholds := (Holds.empty limit).run (operations ++ more)
  rw [List.nil_append, granted_append] at hholds
  exact hholds.exists_object (List.mem_append_left _ hgrant)

/-- The type of the smallest string buffers, of 16 bytes. -/
def smallBuffer : TypeDescriptor where
  tid := ⟨20⟩
  name := "@StringK16"
  size := .reference 16 none
  kind := .stringRepr (.buffer 16)

/-- Two buffers, and one more that the limit forbids. -/
def bufferRequests : List HeapOperation :=
  [.setLimit 48, .allocate smallBuffer [1, 2, 3], .setHeader ⟨0⟩ .forwarded,
    .allocate smallBuffer [4], .allocate smallBuffer [5], .setLimit 72]

theorem holds_granted_of_bufferRequests :
    ((empty 0).granted bufferRequests).map (fun grant => grant.obj.raw) = [1, 2] ∧
      (∃ object, ((empty 0).after bufferRequests).get? ⟨0⟩ = some object ∧
        object.data = [1, 2, 3] ++ List.replicate 13 0) ∧
      ((empty 0).after bufferRequests).limit = 72 ∧
      (∃ later, ((empty 0).after bufferRequests).allocate smallBuffer [6] = .ok (⟨2⟩, later) ∧
        later.allocatedBytes ≤ 72) ∧
      ∃ error, ((empty 0).after bufferRequests).allocate smallBuffer (List.replicate 17 0) =
        .error error := by
  obtain ⟨hholds, -, hcontents, hlimit, hanswers⟩ := holds_granted 0 bufferRequests
  have hgranted : (empty 0).granted bufferRequests =
      [⟨smallBuffer, [1, 2, 3], ⟨0⟩⟩, ⟨smallBuffer, [4], ⟨1⟩⟩] := rfl
  have hcount : ((empty 0).after bufferRequests).count = 2 := rfl
  refine ⟨hholds.numbered.trans (by rw [hcount]; rfl), ?_, hlimit, ?_, ?_⟩
  · have hfirst := hcontents [] ⟨smallBuffer, [1, 2, 3], ⟨0⟩⟩ (hgranted ▸ List.mem_cons_self)
    rwa [List.append_nil] at hfirst
  · have hnext : ((empty 0).after bufferRequests).allocate smallBuffer [6] = .ok (⟨2⟩, _) := rfl
    exact ⟨_, hnext, ((hanswers smallBuffer [6]).granted _ _ hnext).2.2.1 (by decide)⟩
  · exact (hanswers smallBuffer _).fails_iff.mpr (.inr (.inr (.inl (by decide))))

end Heap

end ProgramImage
