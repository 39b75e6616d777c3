/-! Numbers as byte strings of a fixed width, most significant byte first. -/

namespace ClassFile.BigEndian

def ofBytes (bytes : List UInt8) : Nat :=
  bytes.foldl (fun n b => 256 * n + b.toNat) 0

def toBytes : (width n : Nat) → List UInt8
  | 0, _ => []
  | width + 1, n => toBytes width (n / 256) ++ [UInt8.ofNat n]

@[simp]
theorem ofBytes_concat (bytes : List UInt8) (b : UInt8) :
    ofBytes (bytes ++ [b]) = 256 * ofBytes bytes + b.toNat := by
  simp [ofBytes]

@[simp]
theorem toBytes_length (width n : Nat) : (toBytes width n).length = width := by
  induction width generalizing n with
  | zero => rfl
  | succ width ih => simp [toBytes, ih]

theorem toBytes_ofBytes (bytes : List UInt8) : toBytes bytes.length (ofBytes bytes) = bytes := by
  suffices h : ∀ rev : List UInt8, toBytes rev.length (ofBytes rev.reverse) = rev.reverse by
    simpa using h bytes.reverse
  intro rev
  induction rev with
  | nil => rfl
  | cons b rev ih =>
    have hb := b.toNat_lt
    have hd : (256 * ofBytes rev.reverse + b.toNat) / 256 = ofBytes rev.reverse := by omega
    have hm : UInt8.ofNat (256 * ofBytes rev.reverse + b.toNat) = b := by
      apply UInt8.toNat_inj.mp
      rw [UInt8.toNat_ofNat']
      omega
    rw [List.length_cons, List.reverse_cons, ofBytes_concat, toBytes, hd, hm, ih]

end ClassFile.BigEndian
