import ClassFile.Proofs.Overflow.Guarded
import ClassFile.Proofs.Text.ModifiedUtf8
import Mathlib.Data.Nat.Bitwise

namespace ClassFile

namespace Text.ModifiedUtf8

variable {pos : Nat} {lead : UInt8} {bytes rest : List UInt8} {done : List UInt16} {u : UInt16}

lemma decodeOnto_of_ok (h : decodeUnit pos lead bytes = .ok (u, rest)) :
    decodeOnto done pos (lead :: bytes) = decodeOnto (u :: done) (pos + unitWidth u) rest := by
  rw [decodeOnto]
  split
  · next heq =>
    rw [h] at heq
    cases heq
  · next heq =>
    rw [h] at heq
    cases heq
    rfl

lemma decodeOnto_of_error {f : Fault} (h : decodeUnit pos lead bytes = .error f) :
    decodeOnto done pos (lead :: bytes) = .error f := by
  rw [decodeOnto]
  split
  · next heq =>
    rw [h] at heq
    cases heq
    rfl
  · next heq =>
    rw [h] at heq
    cases heq

end Text.ModifiedUtf8

namespace Guarded

open Text

variable {width pos n : Nat} {bytes : List UInt8} {done : List UInt16}

def ofFault {α : Type} : Except ModifiedUtf8.Fault α → Except Stop α
  | .ok a => .ok a
  | .error f => fault f

lemma fits_of_lt {bits : Nat} (h : n < 2 ^ bits) : fits bits n = .ok () := if_pos h

lemma fits_bind {α : Type} {bits : Nat} {x : Except Stop α} (h : n < 2 ^ bits) :
    (fits bits n >>= fun _ => x) = x := by
  rw [fits_of_lt h]
  rfl

section Bits

variable {lead low mid : Nat}

lemma payload_two (h : 0xC0 ≤ lead ∧ lead ≤ 0xDF) : lead &&& 0x1F = lead - 0xC0 := by
  have hmod : lead &&& 0x1F = lead % 32 := Nat.and_two_pow_sub_one_eq_mod lead 5
  omega

lemma payload_three (h : 0xE0 ≤ lead ∧ lead ≤ 0xEF) : lead &&& 0x0F = lead - 0xE0 := by
  have hmod : lead &&& 0x0F = lead % 16 := Nat.and_two_pow_sub_one_eq_mod lead 4
  omega

lemma shiftLeft_or (k : Nat) (h : low < 2 ^ k) : lead <<< k ||| low = lead * 2 ^ k + low := by
  rw [← Nat.shiftLeft_add_eq_or_of_lt h, Nat.shiftLeft_eq]

lemma unit_three (hmid : mid < 64) (hlow : low < 64) :
    lead <<< 12 ||| mid <<< 6 ||| low = lead * 4096 + mid * 64 + low := by
  have htail : mid <<< 6 ||| low = mid * 64 + low := shiftLeft_or 6 hlow
  rw [Nat.or_assoc, htail, shiftLeft_or 12 (by omega)]
  omega

lemma isContinuation_iff (byte : UInt8) :
    byte.toNat &&& 0xC0 = 0x80 ↔ 0x80 ≤ byte.toNat ∧ byte.toNat < 0xC0 := by
  have hall : ∀ n < 256, (n &&& 0xC0 = 0x80 ↔ 0x80 ≤ n ∧ n < 0xC0) := by decide +kernel
  exact hall _ byte.toNat_lt

lemma payload_continuation (h : 0x80 ≤ lead ∧ lead < 0xC0) : lead &&& 0x3F = lead - 0x80 := by
  have hmod : lead &&& 0x3F = lead % 64 := Nat.and_two_pow_sub_one_eq_mod lead 6
  omega

end Bits

lemma continuation_cases (bytes : List UInt8) (pos : Nat) :
    (∃ low < 64, continuation bytes pos = .ok low ∧
      ModifiedUtf8.continuation pos (bytes.drop pos) = .ok (low, bytes.drop (pos + 1))) ∨
    continuation bytes pos = fault (.invalidContinuation pos) ∧
      ModifiedUtf8.continuation pos (bytes.drop pos) = .error (.invalidContinuation pos) := by
  by_cases hpos : pos < bytes.length
  · rw [continuation, List.getElem?_eq_getElem hpos, List.drop_eq_getElem_cons hpos,
      ModifiedUtf8.continuation]
    by_cases h : 0x80 ≤ bytes[pos].toNat ∧ bytes[pos].toNat < 0xC0
    · have hbits := (isContinuation_iff _).mpr h
      refine .inl ⟨bytes[pos].toNat - 0x80, by omega, ?_, if_pos h⟩
      rw [← payload_continuation h]
      exact if_pos hbits
    · have hbits := (isContinuation_iff _).not.mpr h
      exact .inr ⟨if_neg hbits, if_neg h⟩
  · have hle : bytes.length ≤ pos := Nat.not_lt.mp hpos
    rw [continuation, List.getElem?_eq_none hle, List.drop_eq_nil_of_le hle]
    exact .inr ⟨rfl, rfl⟩

variable {lead : UInt8} {rest : List UInt8}

lemma overlong_two {n : Nat} (h : n < 0x800) :
    (n ≠ 0 ∧ n < 0x80) ↔ ModifiedUtf8.unitWidth (.ofNat n) ≠ 2 := by
  have hn : (UInt16.ofNat n).toNat = n :=
    UInt16.toNat_ofNat_of_lt' (h.trans (by decide))
  rw [ne_eq (ModifiedUtf8.unitWidth _), ModifiedUtf8.unitWidth_eq_two_iff, hn]
  omega

lemma overlong_three {n : Nat} (h : n < 0x10000) :
    n < 0x800 ↔ ModifiedUtf8.unitWidth (.ofNat n) ≠ 3 := by
  have hn : (UInt16.ofNat n).toNat = n := UInt16.toNat_ofNat_of_lt' h
  rw [ne_eq, ModifiedUtf8.unitWidth_eq_three_iff, hn]
  omega

inductive Alike (k : Nat) (rest : List UInt8) :
    Except Stop Nat → Except ModifiedUtf8.Fault (UInt16 × List UInt8) → Prop
  | unit {n : Nat} : n < 0x10000 → ModifiedUtf8.unitWidth (.ofNat n) = k →
      Alike k rest (.ok n) (.ok (.ofNat n, rest))
  | refused (f : ModifiedUtf8.Fault) : Alike k rest (fault f) (.error f)

lemma alike_shortest {k n : Nat} {overlong : Prop} [Decidable overlong] (hn : n < 0x10000)
    (h : overlong ↔ ModifiedUtf8.unitWidth (.ofNat n) ≠ k) :
    Alike k rest (if overlong then fault (.overlong pos) else .ok n)
      ((ModifiedUtf8.shortest pos (.ofNat n) k).map fun u => (u, rest)) := by
  rw [ModifiedUtf8.shortest]
  by_cases hk : ModifiedUtf8.unitWidth (.ofNat n) = k
  · rw [if_neg (h.not.mpr (not_not.mpr hk)), if_pos hk]
    exact .unit hn hk
  · rw [if_pos (h.mpr hk), if_neg hk]
    exact .refused _

section Units

variable (hspace : pos + 2 < 2 ^ width)
include hspace

lemma unitOfTwo_alike (h : 0xC0 ≤ lead.toNat ∧ lead.toNat ≤ 0xDF) :
    Alike 2 (bytes.drop (pos + 2)) (unitOfTwo width bytes pos lead.toNat)
      (ModifiedUtf8.decodeUnit pos lead (bytes.drop (pos + 1))) := by
  rw [unitOfTwo, fits_bind (by omega), ModifiedUtf8.decodeUnit, if_neg (by omega),
    if_pos (by omega)]
  rcases continuation_cases bytes (pos + 1) with ⟨low, hlow, hrun, hplain⟩ | ⟨hrun, hplain⟩ <;>
    rw [hrun, hplain]
  · have hshift : (lead.toNat &&& 0x1F) <<< 6 = (lead.toNat - 0xC0) * 64 := by
      rw [payload_two h, Nat.shiftLeft_eq]
    have hbits : (lead.toNat &&& 0x1F) <<< 6 ||| low = (lead.toNat - 0xC0) * 64 + low := by
      rw [payload_two h]
      exact shiftLeft_or 6 hlow
    change Alike 2 _ (fits 16 _ >>= fun _ => _) _
    rw [fits_bind (by omega), hbits]
    exact alike_shortest (by omega) (overlong_two (by omega))
  · exact .refused _

lemma unitOfThree_alike (h : 0xE0 ≤ lead.toNat ∧ lead.toNat ≤ 0xEF) :
    Alike 3 (bytes.drop (pos + 3)) (unitOfThree width bytes pos lead.toNat)
      (ModifiedUtf8.decodeUnit pos lead (bytes.drop (pos + 1))) := by
  rw [unitOfThree, fits_bind (by omega), ModifiedUtf8.decodeUnit, if_neg (by omega),
    if_neg (by omega), if_pos (by omega)]
  rcases continuation_cases bytes (pos + 1) with ⟨mid, hmid, hrun, hplain⟩ | ⟨hrun, hplain⟩ <;>
    rw [hrun, hplain]
  · change Alike 3 _ (fits width _ >>= fun _ => _) (ModifiedUtf8.continuation _ _ >>= _)
    rw [fits_bind hspace]
    rcases continuation_cases bytes (pos + 2) with ⟨low, hlow, hrun, hplain⟩ | ⟨hrun, hplain⟩ <;>
      rw [hrun, hplain]
    · have hshift : (lead.toNat &&& 0x0F) <<< 12 = (lead.toNat - 0xE0) * 4096 := by
        rw [payload_three h, Nat.shiftLeft_eq]
      have hshift' : mid <<< 6 = mid * 64 := Nat.shiftLeft_eq ..
      have hbits : (lead.toNat &&& 0x0F) <<< 12 ||| mid <<< 6 ||| low =
          (lead.toNat - 0xE0) * 4096 + mid * 64 + low := by
        rw [payload_three h]
        exact unit_three hmid hlow
      change Alike 3 _ (fits 16 _ >>= fun _ => fits 16 _ >>= fun _ => _) _
      rw [fits_bind (by omega), fits_bind (by omega), hbits]
      exact alike_shortest (by omega) (overlong_three (by omega))
    · exact .refused _
  · exact .refused _

end Units

lemma unitOfOne_eq (h : 0x01 ≤ lead.toNat ∧ lead.toNat ≤ 0x7F) :
    ModifiedUtf8.decodeUnit pos lead rest = .ok (.ofNat lead.toNat, rest) ∧
      ModifiedUtf8.unitWidth (.ofNat lead.toNat) = 1 := by
  have hunit : lead.toUInt16 = .ofNat lead.toNat := by simp
  have hn : (UInt16.ofNat lead.toNat).toNat = lead.toNat :=
    UInt16.toNat_ofNat_of_lt' (by simp only [UInt16.size]; omega)
  rw [ModifiedUtf8.decodeUnit, if_pos (by omega), hunit, ModifiedUtf8.unitWidth, hn,
    if_neg (by omega), if_pos (by omega)]
  exact ⟨rfl, rfl⟩

lemma Alike.bind {k : Nat} {run : Except Stop Nat}
    (h : Alike k (bytes.drop (pos + k)) run (ModifiedUtf8.decodeUnit pos lead rest))
    (hspace : pos + k < 2 ^ width)
    (ih : ∀ unit, decodeFrom width bytes (.ofNat unit :: done) (pos + k) =
      ofFault (ModifiedUtf8.decodeOnto (.ofNat unit :: done) (pos + k) (bytes.drop (pos + k)))) :
    (do
      let unit ← run
      fits 16 unit
      fits width (pos + k)
      decodeFrom width bytes (.ofNat unit :: done) (pos + k)) =
        ofFault (ModifiedUtf8.decodeOnto done pos (lead :: rest)) := by
  generalize hplain : ModifiedUtf8.decodeUnit pos lead rest = plain at h
  cases h with
  | unit hn hk =>
    change (fits 16 _ >>= fun _ => fits width _ >>= fun _ => _) = _
    rw [fits_bind hn, fits_bind hspace, ih, ModifiedUtf8.decodeOnto_of_ok hplain, hk]
  | refused f =>
    rw [ModifiedUtf8.decodeOnto_of_error hplain]
    rfl

lemma decodeFrom_eq (hwidth : 32 ≤ width) (hbytes : 2 * bytes.length < 2 ^ width) :
    decodeFrom width bytes done pos =
      ofFault (ModifiedUtf8.decodeOnto done pos (bytes.drop pos)) := by
  -- Room for the three bytes of a form also where the text is too short for half of the space.
  have hspace : 2 ^ 32 ≤ 2 ^ width := Nat.pow_le_pow_right (by decide) hwidth
  fun_induction decodeFrom width bytes done pos with
  | case1 done pos h lead hone ih =>
    obtain ⟨hunit, hk⟩ := unitOfOne_eq hone
    rw [fits_bind (by omega), ih, List.drop_eq_getElem_cons h,
      ModifiedUtf8.decodeOnto_of_ok hunit, hk]
  | case2 done pos h lead _ htwo ih =>
    rw [List.drop_eq_getElem_cons h]
    exact (unitOfTwo_alike (by omega) htwo).bind (by omega) ih
  | case3 done pos h lead _ _ hthree ih =>
    rw [List.drop_eq_getElem_cons h]
    exact (unitOfThree_alike (by omega) hthree).bind (by omega) ih
  | case4 done pos h lead hone htwo hthree =>
    have hunit : ModifiedUtf8.decodeUnit pos bytes[pos] (bytes.drop (pos + 1)) =
        .error (.invalidByte bytes[pos] pos) := by
      rw [ModifiedUtf8.decodeUnit, if_neg (by omega), if_neg (by omega), if_neg (by omega)]
    rw [List.drop_eq_getElem_cons h, ModifiedUtf8.decodeOnto_of_error hunit]
    rfl
  | case5 done pos h =>
    rw [List.drop_eq_nil_of_le (Nat.not_lt.mp h), ModifiedUtf8.decodeOnto]
    rfl

lemma decodeUnits_eq (hwidth : 32 ≤ width) (hbytes : 2 * bytes.length < 2 ^ width) :
    decodeUnits width bytes = ofFault (ModifiedUtf8.decodeUnits bytes) :=
  decodeFrom_eq hwidth hbytes

lemma ofModifiedUtf8_eq (hwidth : 32 ≤ width) (hbytes : 2 * bytes.length < 2 ^ width) :
    ofModifiedUtf8 width bytes = ofPlain (Constant.ofModifiedUtf8 bytes) := by
  rw [ofModifiedUtf8, decodeUnits_eq hwidth hbytes, Constant.ofModifiedUtf8]
  cases ModifiedUtf8.decodeUnits bytes with
  | error f => rfl
  | ok units =>
    dsimp only [ofFault, bind, Except.bind]
    cases Utf16.decode? units <;> rfl

end Guarded

end ClassFile
