import ClassFile.Constant.Codec
import Std.Data.HashMap

/-! The constant pool: a table of entries, numbered from 1, that only grows. -/

namespace ClassFile

/-- Slot `i` has index `i + 1` and is empty after a wide entry. The table `first` gives the
lowest index of each entry. -/
structure Pool where
  slots : Array (Option Constant)
  first : Std.HashMap Constant UInt16

/-- Growing a pool. What was interned before a fault stays. -/
abbrev Intern := EStateM Error Pool

namespace Pool

def empty : Pool := ⟨#[], ∅⟩

def maxIndex : Nat := 65534

def size (pool : Pool) : Nat := pool.slots.size

def nextIndex (pool : Pool) : UInt16 := .ofNat (pool.size + 1)

def push (pool : Pool) (entry : Constant) : Pool :=
  let index := pool.nextIndex
  let slots := pool.slots.push (some entry)
  ⟨if entry.isWide then slots.push none else slots, pool.first.insertIfNew entry index⟩

@[simp]
theorem size_push (pool : Pool) (entry : Constant) :
    (pool.push entry).size = pool.size + entry.slots := by
  simp only [push, size, Constant.slots]
  split <;> simp

def find? (pool : Pool) (entry : Constant) : Option UInt16 := pool.first[entry]?

def get (pool : Pool) (index : UInt16) : Except Error Constant :=
  if index = 0 then .error (.invalidReference index .zero)
  else match pool.slots[index.toNat - 1]? with
    | some (some entry) => .ok entry
    | some none => .error (.invalidReference index .secondSlot)
    | none => .error (.invalidReference index (.outOfRange pool.size))

def textAt (pool : Pool) (index : UInt16) : Except Error String :=
  match pool.get index with
  | .ok (.utf8 text) => .ok text
  | .ok (.rawUtf8 _) => .error (.invalidReference index .unpairedSurrogate)
  | .ok entry => .error (.invalidReference index (.notUtf8 entry.tag))
  | .error e => .error e

def indexOf (pool : Pool) (entry : Constant) : Except Error UInt16 :=
  match pool.find? entry with
  | some index => .ok index
  | none => .error (.unresolvedEntry entry)

def indexOfText (pool : Pool) (text : String) : Except Error UInt16 :=
  match pool.find? (.utf8 text) with
  | some index => .ok index
  | none => .error (.unresolvedText text)

def entriesFrom (pool : Pool) (start : Nat) : List (UInt16 × Constant) :=
  ((pool.slots.toList.drop start).zipIdx (start + 1)).filterMap fun (slot, index) =>
    slot.map fun entry => (.ofNat index, entry)

def entries (pool : Pool) : List (UInt16 × Constant) := pool.entriesFrom 0

end Pool

/-- The form in which an entry is interned: raw text that has a string form takes it. -/
def Constant.canonical : Constant → Except Error Constant
  | rawUtf8 bytes => ofModifiedUtf8 bytes
  | entry => .ok entry

namespace Intern

def add (entry : Constant) : Intern UInt16 := do
  let entry ← ofExcept entry.canonical
  match (← get).find? entry with
  | some index => return index
  | none =>
    if entry.payloadLength > Constant.maxTextLength then
      throw (.malformed (.textTooLong entry.payloadLength))
    if (← get).size + entry.slots > Pool.maxIndex then throw .poolOverflow
    modifyGet fun pool => (pool.nextIndex, pool.push entry)

def addText (text : String) : Intern UInt16 := add (.utf8 text)

end Intern

end ClassFile
