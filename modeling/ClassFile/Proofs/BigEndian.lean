import ClassFile.BigEndian
import Mathlib.Data.Nat.Bitwise

namespace ClassFile.BigEndian

theorem ofBytes_toBytes (width n : Nat) : ofBytes (toBytes width n) = n % 256 ^ width := by
  induction width generalizing n with
  | zero => simp [toBytes, ofBytes, Nat.mod_one]
  | succ width ih =>
    simp only [toBytes, ofBytes_concat, ih, UInt8.toNat_ofNat']
    rw [Nat.pow_succ 256, Nat.mul_comm (256 ^ width), Nat.mod_mul]
    omega

theorem ofBytes_lt (bytes : List UInt8) : ofBytes bytes < 256 ^ bytes.length := by
  suffices h : ∀ rev : List UInt8, ofBytes rev.reverse < 256 ^ rev.length by
    simpa using h bytes.reverse
  intro rev
  induction rev with
  | nil => simp [ofBytes]
  | cons b rev ih =>
    have hb := b.toNat_lt
    rw [List.reverse_cons, ofBytes_concat, List.length_cons, Nat.pow_succ]
    omega

lemma ofBytes_toBytes_of_lt {width n : Nat} (h : n < 256 ^ width) :
    ofBytes (toBytes width n) = n := by
  rw [ofBytes_toBytes, Nat.mod_eq_of_lt h]

lemma toBytes_inj {width m n : Nat} (hm : m < 256 ^ width) (hn : n < 256 ^ width)
    (h : toBytes width m = toBytes width n) : m = n := by
  rw [← ofBytes_toBytes_of_lt hm, h, ofBytes_toBytes_of_lt hn]

end ClassFile.BigEndian
