import Std.Data.TreeMap

/-!
# A memo of bounded size

States of an automaton that lead on in the same way need to be built only once. A memo
remembers for each of its slots the state that was built last among those whose key falls
into the slot, so that some states are built again. Keys are spread over the slots by the
FNV-1a hash of their numbers.
-/

namespace ProgramImage

/-- What a slot remembers. -/
structure MemoEntry where
  /-- The occasion on which the state was built. On others it is of no use. -/
  occasion : Nat
  key : List Nat
  state : Nat
  deriving DecidableEq, Repr

/-- A memo: the number of its slots, and what those remember that are in use. -/
structure Memo where
  size : Nat
  slots : Std.TreeMap Nat MemoEntry

namespace Memo

/-- A memo of a number of slots, which remembers nothing. -/
def ofSize (size : Nat) : Memo :=
  ⟨size, ∅⟩

/-- The hash of a sequence of numbers. -/
def hash (key : List Nat) : UInt64 :=
  key.foldl (fun hash n => (hash ^^^ n.toUInt64) * 0x100000001B3) 0xCBF29CE484222325

/-- The slot of a key. -/
def slot (memo : Memo) (key : List Nat) : Nat :=
  (hash key).toNat % memo.size

/-- The state for a key that was built on an occasion, if it is remembered. -/
def find? (memo : Memo) (occasion : Nat) (key : List Nat) : Option Nat :=
  match memo.slots[memo.slot key]? with
  | some entry =>
    if entry.occasion = occasion ∧ entry.key = key then some entry.state else none
  | none => none

def insert (memo : Memo) (occasion : Nat) (key : List Nat) (state : Nat) : Memo :=
  { memo with slots := memo.slots.insert (memo.slot key) ⟨occasion, key, state⟩ }

end Memo

end ProgramImage
