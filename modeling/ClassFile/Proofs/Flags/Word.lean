import ClassFile.Flags
import Mathlib.Data.Nat.Bitwise

namespace ClassFile

namespace Flag

def mask : UInt16 := 0x1DFF

def position : Flag → Nat
  | accPublic => 0
  | accPrivate => 1
  | accProtected => 2
  | accStatic => 3
  | accFinal => 4
  | accSynchronized => 5
  | accBridge => 6
  | accVarargs => 7
  | accNative => 8
  | accAbstract => 10
  | accStrict => 11
  | accSynthetic => 12

variable {v w : UInt16} {f g : Flag}

lemma toNat_bit (f : Flag) : f.bit.toNat = 2 ^ f.position := by
  cases f <;> rfl

lemma isIn_eq_testBit : f.isIn w = w.toNat.testBit f.position := by
  have hpow := Nat.two_pow_pos f.position
  rw [isIn, Bool.eq_iff_iff, decide_eq_true_eq, ne_eq, ← UInt16.toNat_inj, UInt16.toNat_and,
    toNat_bit, Nat.and_two_pow]
  cases w.toNat.testBit f.position <;> simp

lemma isIn_and : f.isIn (v &&& w) = (f.isIn v && f.isIn w) := by
  simp only [isIn_eq_testBit, UInt16.toNat_and, Nat.testBit_and]

lemma isIn_or : f.isIn (v ||| w) = (f.isIn v || f.isIn w) := by
  simp only [isIn_eq_testBit, UInt16.toNat_or, Nat.testBit_or]

lemma isIn_bit : g.isIn f.bit = decide (g = f) := by
  cases f <;> cases g <;> rfl

lemma and_or (u v w : UInt16) : u &&& (v ||| w) = u &&& v ||| u &&& w :=
  UInt16.toNat_inj.mp (by simp only [UInt16.toNat_and, UInt16.toNat_or, Nat.and_or_distrib_left])

lemma and_eq_self_iff : w &&& v = w ↔ w &&& ~~~v = 0 := by
  constructor
  · intro h
    rw [← h, UInt16.and_assoc, UInt16.and_not_self, UInt16.and_zero]
  · intro h
    calc w &&& v = w &&& v ||| w &&& ~~~v := by rw [h, UInt16.or_zero]
      _ = w &&& (v ||| ~~~v) := (and_or ..).symm
      _ = w := by simp

lemma bit_and_mask : f.bit &&& mask = f.bit := by
  cases f <;> rfl

lemma exists_position {k : Nat} (h : mask.toNat.testBit k) : ∃ f : Flag, f.position = k := by
  have hall : ∀ k < 13, mask.toNat.testBit k → ∃ f ∈ all, f.position = k := by decide
  have hle : 2 ^ k ≤ mask.toNat := Nat.ge_two_pow_of_testBit h
  have hlt : mask.toNat < 2 ^ 13 := by decide
  have hk : k < 13 := (Nat.pow_lt_pow_iff_right (by decide)).mp (Nat.lt_of_le_of_lt hle hlt)
  obtain ⟨f, _, hf⟩ := hall k hk h
  exact ⟨f, hf⟩

lemma and_mask_eq_of_isIn (h : ∀ f : Flag, f.isIn v = f.isIn w) : v &&& mask = w &&& mask := by
  apply UInt16.toNat_inj.mp
  apply Nat.eq_of_testBit_eq
  intro k
  simp only [UInt16.toNat_and, Nat.testBit_and]
  cases hk : mask.toNat.testBit k with
  | false => simp only [Bool.and_false]
  | true =>
    obtain ⟨f, rfl⟩ := exists_position hk
    rw [← isIn_eq_testBit, ← isIn_eq_testBit, h f]

lemma isIn_foldl (flags : List Flag) :
    f.isIn (flags.foldl (fun w g => w ||| g.bit) w) = (f.isIn w || decide (f ∈ flags)) := by
  induction flags generalizing w with
  | nil => simp
  | cons g flags ih => simp [ih, isIn_or, isIn_bit, Bool.or_assoc]

lemma foldl_and_mask (flags : List Flag) (h : w &&& mask = w) :
    flags.foldl (fun w g => w ||| g.bit) w &&& mask = flags.foldl (fun w g => w ||| g.bit) w := by
  induction flags generalizing w with
  | nil => exact h
  | cons g flags ih =>
    apply ih
    rw [UInt16.and_comm, and_or, UInt16.and_comm, h, UInt16.and_comm, bit_and_mask]

end Flag

namespace Flags

/-- The word that is written for flags read from `word`: the known bits, and of the visibility
bits private before protected before public. -/
def canonicalWord (word : UInt16) : UInt16 :=
  if word &&& 0x0002 ≠ 0 then word &&& 0x1DFA
  else if word &&& 0x0004 ≠ 0 then word &&& 0x1DFE
  else word &&& 0x1DFF

variable {w : UInt16} {f : Flag} {flags : Flags}

lemma isIn_word : f.isIn flags.word = flags.has f := by
  rw [word, Flag.isIn_foldl]
  simp [toList, Flag.mem_all, Flag.isIn]

theorem ofWord_word : ofWord flags.word = flags := by
  apply ext_has
  intro f
  rw [ofWord, has_ofPred, isIn_word]

lemma word_and_mask : flags.word &&& Flag.mask = flags.word :=
  Flag.foldl_and_mask _ rfl

lemma normalized_normalized : flags.normalized.normalized = flags.normalized := by
  grind [normalized]

lemma canonicalWord_and_mask : canonicalWord w &&& Flag.mask = canonicalWord w := by
  rw [canonicalWord]
  split_ifs <;> exact UInt16.and_assoc ..

theorem word_normalized_ofWord : (ofWord w).normalized.word = canonicalWord w := by
  rw [← word_and_mask, ← canonicalWord_and_mask]
  apply Flag.and_mask_eq_of_isIn
  intro f
  have hhas : ∀ g, (ofWord w).has g = g.isIn w := has_ofPred _
  have hprivate : (ofWord w).isPrivate = true ↔ w &&& 0x0002 ≠ 0 := decide_eq_true_iff
  have hprotected : (ofWord w).isProtected = true ↔ w &&& 0x0004 ≠ 0 := decide_eq_true_iff
  rw [isIn_word, normalized, canonicalWord]
  simp only [hprivate, hprotected]
  -- in each case the mask keeps a bit exactly if normalizing keeps its flag
  split_ifs <;> rw [Flag.isIn_and, ← hhas] <;> cases f <;>
    first
    | exact (Bool.and_true _).symm
    | exact (Bool.and_false _).symm

example : canonicalWord 0x200F = 0x000A := by decide

theorem canonicalWord_eq_self_iff :
    canonicalWord w = w ↔
      w &&& ~~~0x1DFF = 0 ∧ [0x0001, 0x0002, 0x0004].countP (fun bit => w &&& bit ≠ 0) ≤ 1 := by
  have hlow : w &&& ~~~0x1DFA = w &&& ~~~0x1DFF ||| w &&& 0x0001 ||| w &&& 0x0004 := by
    rw [← Flag.and_or, ← Flag.and_or]
    rfl
  have hpublic : w &&& ~~~0x1DFE = w &&& ~~~0x1DFF ||| w &&& 0x0001 := by
    rw [← Flag.and_or]
    rfl
  rw [canonicalWord]
  split_ifs with h h' <;>
    by_cases hp : w &&& 0x0001 = 0 <;> by_cases hr : w &&& 0x0004 = 0 <;>
    simp_all [Flag.and_eq_self_iff]

end Flags

end ClassFile
