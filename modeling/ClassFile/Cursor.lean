import ClassFile.BigEndian
import ClassFile.Error
import ClassFile.Step

/-! Bounds-checked reading. A primitive read that fails leaves the cursor where it was. -/

namespace ClassFile

structure Cursor where
  pos : Nat
  rest : List UInt8
deriving DecidableEq

abbrev Read := EStateM Error Cursor

namespace Cursor

def ofBytes (data : List UInt8) : Cursor := ⟨0, data⟩

def startAt (data : List UInt8) (pos : Nat) : Cursor := ⟨pos, data.drop pos⟩

def remaining (c : Cursor) : Nat := c.rest.length

def hasMore (c : Cursor) : Bool := !c.rest.isEmpty

def advance (c : Cursor) (n : Nat) : Cursor := ⟨c.pos + n, c.rest.drop n⟩

theorem length_rest_advance (c : Cursor) (n : Nat) :
    (c.advance n).rest.length = c.rest.length - n := by
  simp [advance]

end Cursor

namespace Read

def position : Read Nat := fun c => .ok c.pos c

def bytes (n : Nat) : Read (List UInt8) := fun c =>
  let taken := c.rest.take n
  if taken.length = n then .ok taken (c.advance n)
  else .error (.outOfBounds c.pos n taken.length) c

def peek : Read UInt8 := fun c =>
  match c.rest with
  | b :: _ => .ok b c
  | [] => .error (.outOfBounds c.pos 1 0) c

def peek? : Read (Option UInt8) := fun c => .ok c.rest.head? c

def takeWhile (p : UInt8 → Bool) : Read (List UInt8) := fun c =>
  let taken := c.rest.takeWhile p
  .ok taken (c.advance taken.length)

def unsigned (width : Nat) : Read Nat :=
  BigEndian.ofBytes <$> bytes width

def u1 : Read UInt8 := UInt8.ofNat <$> unsigned 1

def u2 : Read UInt16 := UInt16.ofNat <$> unsigned 2

def u4 : Read UInt32 := UInt32.ofNat <$> unsigned 4

def u8 : Read UInt64 := UInt64.ofNat <$> unsigned 8

def i4 : Read Int32 := UInt32.toInt32 <$> u4

def i8 : Read Int64 := UInt64.toInt64 <$> u8

theorem position_ok {n : Nat} {c d : Cursor} (h : position c = .ok n d) : n = c.pos ∧ c = d := by
  cases h
  exact ⟨rfl, rfl⟩

theorem peek?_ok {b : Option UInt8} {c d : Cursor} (h : peek? c = .ok b d) :
    b = c.rest.head? ∧ c = d := by
  cases h
  exact ⟨rfl, rfl⟩

theorem takeWhile_ok {p : UInt8 → Bool} {data : List UInt8} {c d : Cursor}
    (h : takeWhile p c = .ok data d) :
    data = c.rest.takeWhile p ∧ d = c.advance (c.rest.takeWhile p).length := by
  cases h
  exact ⟨rfl, rfl⟩

theorem bytes_ok {n : Nat} {data : List UInt8} {c d : Cursor} (h : bytes n c = .ok data d) :
    data = c.rest.take n ∧ n ≤ c.rest.length ∧ d = c.advance n := by
  simp only [bytes] at h
  split at h <;> cases h
  rename_i hlen
  refine ⟨rfl, ?_, rfl⟩
  rw [List.length_take] at hlen
  omega

theorem unsigned_ok {width n : Nat} {c d : Cursor} (h : unsigned width c = .ok n d) :
    n = BigEndian.ofBytes (c.rest.take width) ∧ width ≤ c.rest.length ∧ d = c.advance width := by
  obtain ⟨data, hb, rfl⟩ := Step.map_eq_ok_iff.mp h
  obtain ⟨rfl, hlen, rfl⟩ := bytes_ok hb
  exact ⟨rfl, hlen, rfl⟩

theorem u1_ok {b : UInt8} {c d : Cursor} (h : u1 c = .ok b d) :
    1 ≤ c.rest.length ∧ d = c.advance 1 := by
  obtain ⟨n, hn, rfl⟩ := Step.map_eq_ok_iff.mp h
  exact (unsigned_ok hn).2

end Read

end ClassFile
