namespace ClassFile.Text.Utf16

def IsHigh (u : UInt16) : Prop := 0xD800 ≤ u.toNat ∧ u.toNat < 0xDC00

def IsLow (u : UInt16) : Prop := 0xDC00 ≤ u.toNat ∧ u.toNat < 0xE000

instance : DecidablePred IsHigh := fun _ => inferInstanceAs (Decidable (_ ∧ _))

instance : DecidablePred IsLow := fun _ => inferInstanceAs (Decidable (_ ∧ _))

def HasUnpaired (units : List UInt16) : Prop :=
  ∃ before u after, units = before ++ u :: after ∧
    (IsHigh u ∧ (∀ v ∈ after.head?, ¬ IsLow v) ∨ IsLow u ∧ (∀ v ∈ before.getLast?, ¬ IsHigh v))

def encodeChar (c : Char) : List UInt16 :=
  let n := c.toNat
  if n < 0x10000 then [.ofNat n]
  else [.ofNat (0xD800 + (n - 0x10000) / 0x400), .ofNat (0xDC00 + (n - 0x10000) % 0x400)]

def encode (s : String) : List UInt16 :=
  s.toList.flatMap encodeChar

def unitChar (u : UInt16) : Char :=
  .ofNat u.toNat

def pairChar (high low : UInt16) : Char :=
  .ofNat (0x10000 + (high.toNat - 0xD800) * 0x400 + (low.toNat - 0xDC00))

def decodeOnto (done : List Char) : List UInt16 → Option String
  | [] => some (.ofList done.reverse)
  | u :: rest =>
    if IsHigh u then
      match rest with
      | v :: rest => if IsLow v then decodeOnto (pairChar u v :: done) rest else none
      | [] => none
    else if IsLow u then none
    else decodeOnto (unitChar u :: done) rest

def decode? (units : List UInt16) : Option String :=
  decodeOnto [] units

end ClassFile.Text.Utf16
