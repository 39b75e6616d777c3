import ClassFile.Proofs.Constant.Form

namespace ClassFile.Constant

open Text.ModifiedUtf8

def payload : Constant → List UInt8
  | utf8 text => encode text
  | rawUtf8 bytes => bytes
  | _ => []

variable {entry : Constant} {bytes : List UInt8} {fault : Error} {out out' : Output}

lemma payloadLength_eq (entry : Constant) : entry.payloadLength = entry.payload.length := by
  cases entry with
  | utf8 text => exact (encode_length text).symm
  | _ => rfl

lemma tooLong_iff : entry.TooLong ↔ maxTextLength < entry.payload.length := by
  constructor
  · intro h
    cases h with
    | utf8 h => exact h
    | rawUtf8 h => exact h
  · intro h
    cases entry with
    | utf8 text => exact .utf8 h
    | rawUtf8 bytes => exact .rawUtf8 h
    | _ => exact absurd h (Nat.not_lt_zero _)

lemma writePayload_tooLong (h : maxTextLength < bytes.length) (out : Output) :
    writePayload bytes out = .error (.malformed (.textTooLong bytes.length)) out := by
  rw [writePayload, if_neg (Nat.not_le.mpr h)]
  rfl

lemma TooLong.write_eq (h : entry.TooLong) (out : Output) :
    entry.write out = .error (.malformed (.textTooLong entry.payload.length))
      (out ++ [Tag.utf8.code]) := by
  have hlong := tooLong_iff.mp h
  have htag : Write.u1 Tag.utf8.code out = .ok () (out ++ [Tag.utf8.code]) := rfl
  cases h with
  | utf8 => exact (Step.bind_of_ok htag).trans (writePayload_tooLong hlong _)
  | rawUtf8 => exact (Step.bind_of_ok htag).trans (writePayload_tooLong hlong _)

lemma write_ok_iff (out : Output) : (∃ out', entry.write out = .ok () out') ↔ ¬ entry.TooLong := by
  constructor
  · rintro ⟨out', hw⟩ hlong
    rw [hlong.write_eq] at hw
    cases hw
  · intro h
    exact ⟨_, write_appends_of_not_tooLong h out⟩

lemma write_error_iff : entry.write out = .error fault out' ↔
    entry.TooLong ∧ fault = .malformed (.textTooLong entry.payload.length) ∧
      out' = out ++ [Tag.utf8.code] := by
  by_cases hlong : entry.TooLong
  · simp [hlong.write_eq, hlong, eq_comm]
  · simp [write_appends_of_not_tooLong hlong out, hlong]

lemma form_of_text (h : entry.tag = .utf8) : entry.form = Tag.utf8.code ::
    .ofNat (entry.payload.length / 256) :: .ofNat entry.payload.length :: entry.payload := by
  cases entry with
  | utf8 text => rfl
  | rawUtf8 bytes => rfl
  | _ => cases h

lemma length_written (ht : entry.tag = .utf8) (h : entry.write out = .ok () out') :
    ∃ high low, out' = out ++ (Tag.utf8.code :: high :: low :: entry.payload) ∧
      256 * high.toNat + low.toNat = entry.payload.length := by
  have hlong : ¬ entry.TooLong := (write_ok_iff out).mp ⟨out', h⟩
  have hle : entry.payload.length ≤ 65535 := Nat.not_lt.mp fun hlt => hlong (tooLong_iff.mpr hlt)
  rw [write_appends_of_not_tooLong hlong, form_of_text ht] at h
  cases h
  refine ⟨_, _, rfl, ?_⟩
  -- below 65536 the two bytes lose nothing of the length
  rw [UInt8.toNat_ofNat', UInt8.toNat_ofNat']
  omega

end ClassFile.Constant
