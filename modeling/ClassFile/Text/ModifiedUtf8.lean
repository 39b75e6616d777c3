import ClassFile.Text.Hex
import ClassFile.Text.Utf16

/-! Modified UTF-8: each UTF-16 unit, surrogates included, is written on its own, and the zero unit
in two bytes. -/

namespace ClassFile.Text.ModifiedUtf8

/-- Why bytes are no modified UTF-8, with the position of the byte at fault; for an overlong
form that is its first byte. -/
inductive Fault where
  | invalidByte (byte : UInt8) (pos : Nat)
  | invalidContinuation (pos : Nat)
  | overlong (pos : Nat)
deriving DecidableEq

def Fault.message : Fault → String
  | invalidByte byte pos =>
    let digits := String.ofList (Hex.padded 2 byte.toNat)
    s!"Invalid modified UTF-8 byte 0x{digits} at {pos}"
  | invalidContinuation pos => s!"Invalid modified UTF-8 continuation byte at {pos}"
  | overlong pos => s!"Overlong modified UTF-8 sequence at {pos}"

def unitWidth (u : UInt16) : Nat :=
  if u.toNat = 0 then 2
  else if u.toNat < 0x80 then 1
  else if u.toNat < 0x800 then 2
  else 3

def encodeUnit (u : UInt16) : List UInt8 :=
  let n := u.toNat
  if 0 < n ∧ n < 0x80 then [.ofNat n]
  else if n < 0x800 then [.ofNat (0xC0 + n / 64), .ofNat (0x80 + n % 64)]
  else [.ofNat (0xE0 + n / 4096), .ofNat (0x80 + n / 64 % 64), .ofNat (0x80 + n % 64)]

def encode (s : String) : List UInt8 :=
  (Utf16.encode s).flatMap encodeUnit

def encodedLength (s : String) : Nat :=
  (Utf16.encode s).foldl (fun n u => n + unitWidth u) 0

def continuation (pos : Nat) : List UInt8 → Except Fault (Nat × List UInt8)
  | [] => .error (.invalidContinuation pos)
  | b :: rest =>
    if 0x80 ≤ b.toNat ∧ b.toNat < 0xC0 then .ok (b.toNat - 0x80, rest)
    else .error (.invalidContinuation pos)

def shortest (pos : Nat) (u : UInt16) (width : Nat) : Except Fault UInt16 :=
  if unitWidth u = width then .ok u else .error (.overlong pos)

def decodeUnit (pos : Nat) (lead : UInt8) (rest : List UInt8) :
    Except Fault (UInt16 × List UInt8) :=
  if 0 < lead.toNat ∧ lead.toNat < 0x80 then .ok (lead.toUInt16, rest)
  else if 0xC0 ≤ lead.toNat ∧ lead.toNat < 0xE0 then do
    let (low, rest) ← continuation (pos + 1) rest
    let unit ← shortest pos (.ofNat ((lead.toNat - 0xC0) * 64 + low)) 2
    return (unit, rest)
  else if 0xE0 ≤ lead.toNat ∧ lead.toNat < 0xF0 then do
    let (mid, rest) ← continuation (pos + 1) rest
    let (low, rest) ← continuation (pos + 2) rest
    let unit ← shortest pos (.ofNat ((lead.toNat - 0xE0) * 4096 + mid * 64 + low)) 3
    return (unit, rest)
  else .error (.invalidByte lead pos)

theorem continuation_length {pos n : Nat} {bytes rest : List UInt8}
    (h : continuation pos bytes = .ok (n, rest)) : rest.length < bytes.length := by
  cases bytes with
  | nil => cases h
  | cons b bytes =>
    simp only [continuation] at h
    split at h
    · simp only [Except.ok.injEq, Prod.mk.injEq] at h
      simp [← h.2]
    · cases h

theorem decodeUnit_length {pos : Nat} {lead : UInt8} {bytes rest : List UInt8} {u : UInt16}
    (h : decodeUnit pos lead bytes = .ok (u, rest)) : rest.length ≤ bytes.length := by
  unfold decodeUnit at h
  split at h
  · cases h
    exact Nat.le_refl _
  split at h
  · rcases hlow : continuation (pos + 1) bytes with fault | ⟨low, r⟩ <;>
      simp only [hlow, bind, Except.bind, pure, Except.pure] at h
    · cases h
    split at h <;> cases h
    exact Nat.le_of_lt (continuation_length hlow)
  split at h
  · rcases hmid : continuation (pos + 1) bytes with fault | ⟨mid, r⟩ <;>
      simp only [hmid, bind, Except.bind, pure, Except.pure] at h
    · cases h
    rcases hlow : continuation (pos + 2) r with fault | ⟨low, r'⟩ <;> simp only [hlow] at h
    · cases h
    split at h <;> cases h
    exact Nat.le_of_lt (Nat.lt_trans (continuation_length hlow) (continuation_length hmid))
  · cases h

/-- Decodes the bytes from `pos` on behind `done`, the units found so far in reverse order. As a
unit has one form, its width is the number of bytes it was read from. -/
def decodeOnto (done : List UInt16) (pos : Nat) : List UInt8 → Except Fault (List UInt16)
  | [] => .ok done.reverse
  | lead :: bytes =>
    match h : decodeUnit pos lead bytes with
    | .error fault => .error fault
    | .ok (u, rest) =>
      have := decodeUnit_length h
      decodeOnto (u :: done) (pos + unitWidth u) rest
termination_by bytes => bytes.length

def decodeUnits (bytes : List UInt8) : Except Fault (List UInt16) :=
  decodeOnto [] 0 bytes

end ClassFile.Text.ModifiedUtf8
