import ClassFile.Proofs.Constant.Payload
import ClassFile.Proofs.Constant.Text

namespace ClassFile.Constant

open Text.ModifiedUtf8

variable {entry : Constant} {raw : List UInt8} {c d : Cursor}

lemma storable_iff : entry.Storable ↔
    ¬ entry.TooLong ∧ ∀ raw, entry = .rawUtf8 raw → ofModifiedUtf8 raw = .ok (.rawUtf8 raw) := by
  constructor
  · intro h
    refine ⟨h.not_tooLong, ?_⟩
    rintro raw rfl
    exact h.2
  · rintro ⟨hlong, hraw⟩
    cases entry with
    | utf8 text => exact Nat.not_lt.mp fun hlt => hlong (.utf8 hlt)
    | rawUtf8 raw => exact ⟨Nat.not_lt.mp fun hlt => hlong (.rawUtf8 hlt), hraw raw rfl⟩
    | _ => trivial

lemma read_of_spans_raw (h : ¬ (rawUtf8 raw).TooLong) (hs : c.Spans (rawUtf8 raw).form d) :
    read c = (ofExcept (ofModifiedUtf8 raw) : Read Constant) d := by
  obtain ⟨m, htag, hs⟩ := Cursor.spans_append.mp hs
  obtain ⟨m', hlength, hs⟩ := Cursor.spans_append.mp hs
  have hle : raw.length ≤ maxTextLength := Nat.not_lt.mp fun hlt => h (.rawUtf8 hlt)
  have hn : (UInt16.ofNat raw.length).toNat = raw.length :=
    UInt16.toNat_ofNat_of_lt' (Nat.lt_succ_of_le hle)
  have hlength : Read.u2 m = .ok (.ofNat raw.length) m' := Read.u2_ok_iff.mpr (by rwa [hn])
  have hbytes : Read.bytes (UInt16.ofNat raw.length).toNat m' = .ok raw d :=
    Read.bytes_ok_iff.mpr ⟨hn.symm, hs⟩
  have htag : Read.u1 c = .ok Tag.utf8.code m := Read.u1_ok_iff.mpr htag
  rw [read, Step.bind_of_ok (Read.position_ok_iff.mpr ⟨rfl, rfl⟩), Step.bind_of_ok htag]
  rw [Tag.ofCode?_code]
  dsimp only [readFields]
  rw [Step.bind_of_ok hlength, Step.bind_of_ok hbytes]

lemma read_raw_cases (h : ¬ (rawUtf8 raw).TooLong) (hs : c.Spans (rawUtf8 raw).form d)
    (hne : ofModifiedUtf8 raw ≠ .ok (.rawUtf8 raw)) :
    (∃ text, raw = encode text ∧ read c = .ok (.utf8 text) d) ∨
      (∀ text, raw ≠ encode text) ∧ ∃ cause, read c = .error (.malformed cause) d := by
  rw [read_of_spans_raw h hs]
  cases he : ofModifiedUtf8 raw with
  | ok entry =>
    rcases ofModifiedUtf8_cases he with ⟨text, rfl, rfl⟩ | rfl
    · exact Or.inl ⟨text, rfl, rfl⟩
    · exact absurd he hne
  | error e =>
    obtain ⟨fault, rfl⟩ := malformed_of_ofModifiedUtf8 he
    refine Or.inr ⟨?_, .text fault, rfl⟩
    rintro text rfl
    rw [ofModifiedUtf8_encode] at he
    cases he

theorem write_read_exact (entry : Constant) :
    (∀ out, (∃ out', entry.write out = .ok () out') ↔ ¬ entry.TooLong) ∧
    (¬ entry.TooLong → ∃ bytes, entry.write.Appends bytes ∧ ∀ rest,
      (read (.ofBytes (bytes ++ rest)) = .ok entry ⟨bytes.length, rest⟩ ↔
        ∀ raw, entry = .rawUtf8 raw → ofModifiedUtf8 raw = .ok (.rawUtf8 raw)) ∧
      ∀ raw, entry = .rawUtf8 raw → ofModifiedUtf8 raw ≠ .ok (.rawUtf8 raw) →
        (∃ text, raw = encode text ∧
          read (.ofBytes (bytes ++ rest)) = .ok (.utf8 text) ⟨bytes.length, rest⟩) ∨
        (∀ text, raw ≠ encode text) ∧ ∃ cause,
          read (.ofBytes (bytes ++ rest)) = .error (.malformed cause) ⟨bytes.length, rest⟩) ∧
    ∀ c d, read c = .ok entry d →
      ∃ bytes, c.Spans bytes d ∧ entry.write #[] = .ok () bytes.toArray := by
  refine ⟨write_ok_iff, fun hlong => ?_, fun c d h => ?_⟩
  · refine ⟨entry.form, write_appends_of_not_tooLong hlong, fun rest => ?_⟩
    have hs : (Cursor.ofBytes (entry.form ++ rest)).Spans entry.form ⟨entry.form.length, rest⟩ :=
      ⟨rfl, (Nat.zero_add _).symm⟩
    constructor
    · rw [read_ok_iff, and_iff_left hs, storable_iff, and_iff_right hlong]
    · rintro raw rfl hne
      exact read_raw_cases hlong hs hne
  · obtain ⟨hst, hs⟩ := read_ok_iff.mp h
    refine ⟨entry.form, hs, ?_⟩
    rw [write_appends hst]
    simp

theorem write_read_raw_letter :
    ¬ (rawUtf8 [0x61]).TooLong ∧ ofModifiedUtf8 [0x61] ≠ .ok (.rawUtf8 [0x61]) ∧
    ∃ bytes, (rawUtf8 [0x61]).write.Appends bytes ∧
      ∀ rest, read (.ofBytes (bytes ++ rest)) = .ok (.utf8 "a") ⟨bytes.length, rest⟩ := by
  have hlong : ¬ (rawUtf8 [0x61]).TooLong := by
    rintro ⟨⟩
    contradiction
  have ha : ofModifiedUtf8 [0x61] = .ok (.utf8 "a") := ofModifiedUtf8_encode "a"
  have hne : ofModifiedUtf8 [0x61] ≠ .ok (.rawUtf8 [0x61]) := by simp [ha]
  obtain ⟨_, hread, _⟩ := write_read_exact (rawUtf8 [0x61])
  obtain ⟨bytes, happends, hread⟩ := hread hlong
  refine ⟨hlong, hne, bytes, happends, fun rest => ?_⟩
  rcases (hread rest).2 _ rfl hne with ⟨text, htext, h⟩ | ⟨hnone, _⟩
  · rw [htext, ofModifiedUtf8_encode] at ha
    rwa [utf8.inj (Except.ok.inj ha)] at h
  · exact absurd rfl (hnone "a")

end ClassFile.Constant
