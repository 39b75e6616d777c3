import ClassFile.Proofs.Constant.Form

namespace ClassFile.Constant

open Text.ModifiedUtf8

variable {bytes : List UInt8} {text : String} {entry : Constant}

lemma ofModifiedUtf8_flatMap (units : List UInt16) :
    ofModifiedUtf8 (units.flatMap encodeUnit) =
      match Text.Utf16.decode? units with
      | some text => .ok (utf8 text)
      | none => .ok (rawUtf8 (units.flatMap encodeUnit)) := by
  have hu := decodeUnits_ok_iff.mpr (rfl : units.flatMap encodeUnit = units.flatMap encodeUnit)
  cases hd : Text.Utf16.decode? units <;> simp only [ofModifiedUtf8, hu, hd]

lemma exists_units_of_ofModifiedUtf8 (h : ofModifiedUtf8 bytes = .ok entry) :
    ∃ units : List UInt16, bytes = units.flatMap encodeUnit := by
  rw [ofModifiedUtf8] at h
  cases hd : decodeUnits bytes with
  | error fault => simp [hd] at h
  | ok units => exact ⟨units, decodeUnits_ok_iff.mp hd⟩

lemma ofModifiedUtf8_eq_utf8_iff :
    ofModifiedUtf8 bytes = .ok (utf8 text) ↔ bytes = encode text := by
  constructor
  · intro h
    rcases ofModifiedUtf8_cases h with ⟨text', ht, rfl⟩ | hr
    · rw [utf8.inj ht]
    · cases hr
  · rintro rfl
    exact ofModifiedUtf8_encode text

lemma ofModifiedUtf8_eq_raw_iff :
    ofModifiedUtf8 bytes = .ok (rawUtf8 bytes) ↔
      ∃ units, Text.Utf16.HasUnpaired units ∧ bytes = units.flatMap encodeUnit := by
  constructor
  · intro h
    obtain ⟨units, rfl⟩ := exists_units_of_ofModifiedUtf8 h
    rw [ofModifiedUtf8_flatMap] at h
    cases hd : Text.Utf16.decode? units with
    | none => exact ⟨units, Text.Utf16.decode?_eq_none_iff.mp hd, rfl⟩
    | some text => simp [hd] at h
  · rintro ⟨units, hu, rfl⟩
    rw [ofModifiedUtf8_flatMap, Text.Utf16.decode?_eq_none_iff.mpr hu]

lemma ofModifiedUtf8_eq_error_iff :
    (∃ fault, ofModifiedUtf8 bytes = .error (.malformed (.text fault))) ↔
      ∀ units : List UInt16, bytes ≠ units.flatMap encodeUnit := by
  constructor
  · rintro ⟨fault, h⟩ units rfl
    rw [ofModifiedUtf8_flatMap] at h
    split at h <;> cases h
  · intro h
    cases hd : decodeUnits bytes with
    | error fault => exact ⟨fault, by rw [ofModifiedUtf8, hd]⟩
    | ok units => exact absurd (decodeUnits_ok_iff.mp hd) (h units)

lemma malformed_of_ofModifiedUtf8 {e : Error} (h : ofModifiedUtf8 bytes = .error e) :
    ∃ fault, e = .malformed (.text fault) := by
  rw [ofModifiedUtf8] at h
  cases hd : decodeUnits bytes with
  | error fault => exact ⟨fault, by simpa [hd, eq_comm] using h⟩
  | ok units =>
    rw [hd] at h
    dsimp only at h
    split at h <;> cases h

lemma encoded_or_unpaired (units : List UInt16) :
    (∃ text, units.flatMap encodeUnit = encode text) ∨ Text.Utf16.HasUnpaired units := by
  cases hd : Text.Utf16.decode? units with
  | none => exact Or.inr (Text.Utf16.decode?_eq_none_iff.mp hd)
  | some text => exact Or.inl ⟨text, by rw [Text.Utf16.decode?_eq_some_iff.mp hd, encode]⟩

theorem text_classified (bytes : List UInt8) :
    (∀ units, decodeUnits bytes = .ok units ↔ bytes = units.flatMap encodeUnit) ∧
    (∀ text, ofModifiedUtf8 bytes = .ok (utf8 text) ↔ bytes = encode text) ∧
    (ofModifiedUtf8 bytes = .ok (rawUtf8 bytes) ↔
      ∃ units, Text.Utf16.HasUnpaired units ∧ bytes = units.flatMap encodeUnit) ∧
    ((∃ fault, ofModifiedUtf8 bytes = .error (.malformed (.text fault))) ↔
      (∀ text, bytes ≠ encode text) ∧
        ∀ units, Text.Utf16.HasUnpaired units → bytes ≠ units.flatMap encodeUnit) := by
  refine ⟨fun _ => decodeUnits_ok_iff, fun _ => ofModifiedUtf8_eq_utf8_iff,
    ofModifiedUtf8_eq_raw_iff, ofModifiedUtf8_eq_error_iff.trans ⟨?_, ?_⟩⟩
  · exact fun h => ⟨fun text => h (Text.Utf16.encode text), fun units _ => h units⟩
  · rintro ⟨htext, hraw⟩ units rfl
    rcases encoded_or_unpaired units with ⟨text, ht⟩ | hu
    · exact htext text ht
    · exact hraw units hu rfl

end ClassFile.Constant
