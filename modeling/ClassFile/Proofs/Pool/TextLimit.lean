import ClassFile.Proofs.Constant.Payload
import ClassFile.Proofs.Pool.Representation

/-! The length of text is checked on a count when an entry is interned, and on its bytes when it is
written. -/

namespace ClassFile

open Text.ModifiedUtf8

def Error.IsTooLong (fault : Error) : Prop := ∃ length, fault = .malformed (.textTooLong length)

lemma Constant.payload_of_canonical {entry e : Constant} (h : entry.canonical = .ok e) :
    e.payload = entry.payload := by
  rcases canonical_cases h with ⟨text, rfl, rfl⟩ | rfl <;> rfl

lemma Pool.Valid.find?_tooLong {pool : Pool} {e : Constant} (hv : pool.Valid) (h : e.TooLong) :
    pool.find? e = none :=
  hv.find?_eq_none_iff.mpr fun _ hi => (hv.storable_of_get hi).not_tooLong h

namespace Intern

variable {pool : Pool} {entry e : Constant} {fault : Error}

lemma add_tooLong_iff (hv : pool.Valid) (hc : entry.canonical = .ok e) :
    (fault.IsTooLong ∧ ∃ pool', add entry pool = .error fault pool') ↔
      e.TooLong ∧ fault = .malformed (.textTooLong e.payload.length) := by
  have hgt : e.payloadLength > Constant.maxTextLength ↔ e.TooLong := by
    rw [Constant.tooLong_iff, ← Constant.payloadLength_eq]
  by_cases hlong : e.TooLong
  -- no pool holds text that long, so the look-up does not answer before the check
  · have hadd := add_of_absent hc (hv.find?_tooLong hlong)
    rw [if_pos (hgt.mpr hlong), Constant.payloadLength_eq] at hadd
    simp only [hadd, hlong, true_and]
    constructor
    · rintro ⟨-, pool', ⟨⟩⟩
      rfl
    · rintro rfl
      exact ⟨⟨_, rfl⟩, pool, rfl⟩
  · refine iff_of_false ?_ fun h => hlong h.1
    rintro ⟨⟨length, rfl⟩, pool', h⟩
    cases hf : pool.find? e with
    | some i =>
      rw [add_of_present hc hf] at h
      cases h
    | none =>
      rw [add_of_absent hc hf, if_neg (mt hgt.mp hlong)] at h
      split_ifs at h
      cases h

lemma add_tooLong_iff_write (hv : pool.Valid) (hc : entry.canonical = .ok e) (out : Output) :
    (fault.IsTooLong ∧ ∃ pool', add entry pool = .error fault pool') ↔
      ∃ out', entry.write out = .error fault out' := by
  have hp := Constant.payload_of_canonical hc
  have hlong : e.TooLong ↔ entry.TooLong := by
    rw [Constant.tooLong_iff, Constant.tooLong_iff, hp]
  rw [add_tooLong_iff hv hc, hlong, hp]
  simp [Constant.write_error_iff]

end Intern

namespace Pool

variable {pool : Pool}

structure LimitsText (pool : Pool) : Prop where
  encodedLength_eq : ∀ text, encodedLength text = (encode text).length
  text_refused_iff : ∀ text out fault,
    (fault.IsTooLong ∧ ∃ pool', Intern.addText text pool = .error fault pool') ↔
      ∃ out', (Constant.utf8 text).write out = .error fault out'
  raw_refused_iff : ∀ raw entry, Constant.ofModifiedUtf8 raw = .ok entry → ∀ out fault,
    (fault.IsTooLong ∧ ∃ pool', Intern.add (.rawUtf8 raw) pool = .error fault pool') ↔
      ∃ out', (Constant.rawUtf8 raw).write out = .error fault out'
  write_refused_iff : ∀ (entry : Constant) out fault out', entry.write out = .error fault out' ↔
    65535 < entry.payload.length ∧ fault = .malformed (.textTooLong entry.payload.length) ∧
      out' = out ++ [Tag.utf8.code]
  length_written : ∀ (entry : Constant) out out', entry.tag = .utf8 →
    entry.write out = .ok () out' → ∃ high low,
      out' = out ++ (Tag.utf8.code :: high :: low :: entry.payload) ∧
      256 * high.toNat + low.toNat = entry.payload.length

theorem limitsText_of_reachable (hr : pool.Reachable) : pool.LimitsText := by
  have hv := hr.valid
  constructor
  case encodedLength_eq => exact fun text => (encode_length text).symm
  case text_refused_iff => exact fun text out fault => Intern.add_tooLong_iff_write hv rfl out
  case raw_refused_iff =>
    intro raw entry h out fault
    have hc : (Constant.rawUtf8 raw).canonical = .ok entry := h
    exact Intern.add_tooLong_iff_write hv hc out
  case write_refused_iff =>
    intro entry out fault out'
    rw [Constant.write_error_iff, Constant.tooLong_iff]
    rfl
  case length_written => exact fun entry out out' ht h => Constant.length_written ht h

def lengthened (pairs : Nat) : String :=
  .ofList (['\x00', '\x00'] ++ List.replicate pairs '😀')

lemma length_encode_lengthened (pairs : Nat) :
    (encode (lengthened pairs)).length = 4 + 6 * pairs := by
  have hzero : ((Text.Utf16.encodeChar '\x00').flatMap encodeUnit).length = 2 := by decide
  have hpair : ((Text.Utf16.encodeChar '😀').flatMap encodeUnit).length = 6 := by decide
  rw [lengthened, encode, Text.Utf16.encode, String.toList_ofList, List.flatMap_assoc,
    List.length_flatMap, List.map_append, List.map_replicate, hpair, List.sum_append,
    List.sum_replicate_nat]
  simp only [List.map_cons, List.map_nil, hzero, List.sum_cons, List.sum_nil]
  omega

theorem limitsText_lengthened :
    doubled.Reachable ∧
    (∃ fault pool' pool'' out',
      Intern.addText (lengthened 10922) doubled = .error fault pool' ∧
      Intern.add (.rawUtf8 (encode (lengthened 10922))) doubled = .error fault pool'' ∧
      (Constant.utf8 (lengthened 10922)).write #[] = .error fault out' ∧
      fault.message = "Utf8 constant of 65536 bytes exceeds the u2 length field") ∧
    ∃ high low, (Constant.utf8 (lengthened 10921)).write #[] =
        .ok () ((#[] : Output) ++ (Tag.utf8.code :: high :: low :: encode (lengthened 10921))) ∧
      256 * high.toNat + low.toNat = 65530 := by
  have hlimits := limitsText_of_reachable doubled_reachable
  have hlong : (encode (lengthened 10922)).length = 65536 := length_encode_lengthened 10922
  have hshort : (encode (lengthened 10921)).length = 65530 := length_encode_lengthened 10921
  have hrefused (entry : Constant) (hp : entry.payload = encode (lengthened 10922)) :
      entry.write #[] = .error (.malformed (.textTooLong 65536)) #[Tag.utf8.code] := by
    rw [hlimits.write_refused_iff, hp, hlong]
    exact ⟨by decide, rfl, rfl⟩
  have hwritten (text : String) (hfits : ¬ (Constant.utf8 text).TooLong) : ∃ high low,
      (Constant.utf8 text).write #[] =
        .ok () ((#[] : Output) ++ (Tag.utf8.code :: high :: low :: encode text)) ∧
      256 * high.toNat + low.toNat = (encode text).length := by
    obtain ⟨out', hw⟩ := (Constant.write_ok_iff #[]).mpr hfits
    obtain ⟨high, low, rfl, hcount⟩ := hlimits.length_written (.utf8 text) #[] out' rfl hw
    exact ⟨high, low, hw, hcount⟩
  have hfits : ¬ (Constant.utf8 (lengthened 10921)).TooLong := by
    rw [Constant.tooLong_iff, Constant.payload, hshort]
    decide
  have htext := hrefused (.utf8 (lengthened 10922)) rfl
  have hraw := hrefused (.rawUtf8 (encode (lengthened 10922))) rfl
  have hc := Constant.ofModifiedUtf8_encode (lengthened 10922)
  obtain ⟨-, pool', hadd⟩ := (hlimits.text_refused_iff _ _ _).mpr ⟨_, htext⟩
  obtain ⟨-, pool'', hadd'⟩ := (hlimits.raw_refused_iff _ _ hc _ _).mpr ⟨_, hraw⟩
  obtain ⟨high, low, hw, hcount⟩ := hwritten _ hfits
  refine ⟨doubled_reachable, ⟨_, pool', pool'', _, hadd, hadd', htext, rfl⟩, high, low, hw, ?_⟩
  exact hcount.trans hshort

end Pool

end ClassFile
