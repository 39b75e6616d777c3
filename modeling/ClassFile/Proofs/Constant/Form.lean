import ClassFile.Constant.Codec
import ClassFile.Proofs.Spans
import ClassFile.Proofs.Text.ModifiedUtf8
import ClassFile.Proofs.Text.Utf16

namespace ClassFile.Constant

open BigEndian

/-- What a pool can hold: text that fits its length field, raw only if it has no string form. -/
def Storable : Constant → Prop
  | utf8 text => (Text.ModifiedUtf8.encode text).length ≤ maxTextLength
  | rawUtf8 bytes => bytes.length ≤ maxTextLength ∧ ofModifiedUtf8 bytes = .ok (rawUtf8 bytes)
  | _ => True

inductive TooLong : Constant → Prop
  | utf8 {text : String} : maxTextLength < (Text.ModifiedUtf8.encode text).length →
      TooLong (utf8 text)
  | rawUtf8 {bytes : List UInt8} : maxTextLength < bytes.length → TooLong (rawUtf8 bytes)

def payloadForm (bytes : List UInt8) : List UInt8 :=
  toBytes 2 bytes.length ++ bytes

def fieldsForm : Constant → List UInt8
  | utf8 text => payloadForm (Text.ModifiedUtf8.encode text)
  | rawUtf8 bytes => payloadForm bytes
  | integer value => toBytes 4 value.toUInt32.toNat
  | float bits => toBytes 4 bits.toNat
  | long value => toBytes 8 value.toUInt64.toNat
  | double bits => toBytes 8 bits.toNat
  | classRef index | string index | methodType index | moduleRef index | packageRef index =>
    toBytes 2 index.toNat
  | fieldRef first second | methodRef first second | interfaceMethodRef first second
  | nameAndType first second | dynamic first second | invokeDynamic first second =>
    toBytes 2 first.toNat ++ toBytes 2 second.toNat
  | methodHandle kind reference => toBytes 1 kind.toNat ++ toBytes 2 reference.toNat

def form (entry : Constant) : List UInt8 :=
  toBytes 1 entry.tag.code.toNat ++ entry.fieldsForm

variable {bytes : List UInt8} {entry : Constant} {c d : Cursor}

lemma ofModifiedUtf8_encode (text : String) :
    ofModifiedUtf8 (Text.ModifiedUtf8.encode text) = .ok (utf8 text) := by
  have hu := Text.ModifiedUtf8.decodeUnits_ok_iff.mpr
    (rfl : Text.ModifiedUtf8.encode text = (Text.Utf16.encode text).flatMap _)
  simp only [ofModifiedUtf8, hu, Text.Utf16.decode?_encode]

lemma ofModifiedUtf8_cases (h : ofModifiedUtf8 bytes = .ok entry) :
    (∃ text, entry = utf8 text ∧ bytes = Text.ModifiedUtf8.encode text) ∨
      entry = rawUtf8 bytes := by
  simp only [ofModifiedUtf8] at h
  split at h
  · cases h
  · next units hu =>
    split at h
    · next text ht =>
      cases h
      refine Or.inl ⟨text, rfl, ?_⟩
      rw [Text.ModifiedUtf8.decodeUnits_ok_iff.mp hu, Text.Utf16.decode?_eq_some_iff.mp ht]
      rfl
    · cases h
      exact Or.inr rfl

lemma fieldsForm_of_ofModifiedUtf8 (h : ofModifiedUtf8 bytes = .ok entry) :
    entry.fieldsForm = payloadForm bytes := by
  rcases ofModifiedUtf8_cases h with ⟨text, rfl, rfl⟩ | rfl <;> rfl

lemma tag_of_ofModifiedUtf8 (h : ofModifiedUtf8 bytes = .ok entry) : entry.tag = .utf8 := by
  rcases ofModifiedUtf8_cases h with ⟨text, rfl, rfl⟩ | rfl <;> rfl

lemma storable_iff_of_tag (ht : entry.tag = .utf8) :
    entry.Storable ↔ ∃ bytes, bytes.length ≤ maxTextLength ∧ ofModifiedUtf8 bytes = .ok entry := by
  constructor
  · intro h
    cases entry with
    | utf8 text => exact ⟨_, h, ofModifiedUtf8_encode text⟩
    | rawUtf8 bytes => exact ⟨bytes, h⟩
    | _ => cases ht
  · rintro ⟨bytes, hlen, he⟩
    rcases ofModifiedUtf8_cases he with ⟨text, rfl, rfl⟩ | rfl
    · exact hlen
    · exact ⟨hlen, he⟩

lemma payload_ok_iff :
    readFields .utf8 c = .ok entry d ↔ ∃ bytes, bytes.length ≤ maxTextLength ∧
      ofModifiedUtf8 bytes = .ok entry ∧ c.Spans (payloadForm bytes) d := by
  simp only [readFields, Step.bind_eq_ok_iff, Read.u2_ok_iff, Read.bytes_ok_iff,
    Step.ofExcept_eq_ok_iff]
  constructor
  · rintro ⟨length, m, hm, bytes, _, ⟨hlen, hs⟩, he, rfl⟩
    have hn := length.toNat_lt
    rw [← hlen] at hm hn
    exact ⟨bytes, Nat.le_of_lt_succ hn, he, Cursor.spans_append_of hm hs⟩
  · rintro ⟨bytes, hlen, he, hs⟩
    obtain ⟨m, hm, hs⟩ := Cursor.spans_append.mp hs
    have hn : (UInt16.ofNat bytes.length).toNat = bytes.length :=
      UInt16.toNat_ofNat_of_lt' (Nat.lt_succ_of_le hlen)
    exact ⟨.ofNat bytes.length, m, by rwa [hn], bytes, d, ⟨hn.symm, hs⟩, he, rfl⟩

lemma text_ok_iff (ht : entry.tag = .utf8) :
    readFields .utf8 c = .ok entry d ↔ entry.Storable ∧ c.Spans entry.fieldsForm d := by
  rw [payload_ok_iff, storable_iff_of_tag ht]
  constructor
  · rintro ⟨bytes, hlen, he, hs⟩
    exact ⟨⟨bytes, hlen, he⟩, by rwa [fieldsForm_of_ofModifiedUtf8 he]⟩
  · rintro ⟨⟨bytes, hlen, he⟩, hs⟩
    exact ⟨bytes, hlen, he, by rwa [fieldsForm_of_ofModifiedUtf8 he] at hs⟩

lemma tag_of_readFields {tag : Tag} (h : readFields tag c = .ok entry d) : entry.tag = tag := by
  cases tag with
  | utf8 =>
    obtain ⟨bytes, _, he, _⟩ := payload_ok_iff.mp h
    exact tag_of_ofModifiedUtf8 he
  | integer | float | long | double | classRef | string | methodType | moduleRef | packageRef =>
    obtain ⟨_, _, rfl⟩ := Step.map_eq_ok_iff.mp h
    rfl
  | fieldRef | methodRef | interfaceMethodRef | nameAndType | methodHandle | dynamic
  | invokeDynamic =>
    obtain ⟨_, _, _, hf, _, rfl⟩ := Step.seq_eq_ok_iff.mp h
    obtain ⟨_, _, rfl⟩ := Step.map_eq_ok_iff.mp hf
    rfl

section Fields

variable {α β : Type} {a : α} {b : β} {read : Read α} {read' : Read β}

lemma field_ok_iff {make : α → Constant} (hm : make.Injective) :
    (make <$> read) c = .ok (make a) d ↔ read c = .ok a d := by
  rw [Step.map_eq_ok_iff]
  constructor
  · rintro ⟨a', hr, he⟩
    rwa [← hm he]
  · exact fun hr => ⟨a, hr, rfl⟩

lemma fields_ok_iff {make : α → β → Constant}
    (hm : ∀ {a b a' b'}, make a b = make a' b' → a = a' ∧ b = b') :
    (make <$> read <*> read') c = .ok (make a b) d ↔ ∃ m, read c = .ok a m ∧ read' m = .ok b d := by
  simp only [Step.seq_eq_ok_iff, Step.map_eq_ok_iff]
  constructor
  · rintro ⟨_, m, b', ⟨a', hr, rfl⟩, hr', he⟩
    obtain ⟨rfl, rfl⟩ := hm he
    exact ⟨m, hr, hr'⟩
  · rintro ⟨m, hr, hr'⟩
    exact ⟨make a, m, b, ⟨a, hr, rfl⟩, hr', rfl⟩

lemma index_ok_iff {make : UInt16 → Constant} (hm : make.Injective) {index : UInt16} :
    (make <$> Read.u2) c = .ok (make index) d ↔ c.Spans (toBytes 2 index.toNat) d :=
  (field_ok_iff hm).trans Read.u2_ok_iff

lemma indices_ok_iff {make : UInt16 → UInt16 → Constant} {first second : UInt16}
    (hm : ∀ {a b a' b'}, make a b = make a' b' → a = a' ∧ b = b') :
    (make <$> Read.u2 <*> Read.u2) c = .ok (make first second) d ↔
      c.Spans (toBytes 2 first.toNat ++ toBytes 2 second.toNat) d := by
  rw [fields_ok_iff hm, Cursor.spans_append]
  simp only [Read.u2_ok_iff]

end Fields

lemma readFields_ok_iff :
    readFields entry.tag c = .ok entry d ↔ entry.Storable ∧ c.Spans entry.fieldsForm d := by
  have fixed {p q : Prop} (h : p ↔ q) : p ↔ True ∧ q := h.trans (and_iff_right trivial).symm
  cases entry with
  | utf8 text => exact text_ok_iff rfl
  | rawUtf8 bytes => exact text_ok_iff rfl
  | integer value => exact fixed ((field_ok_iff @integer.inj).trans Read.i4_ok_iff)
  | float bits => exact fixed ((field_ok_iff @float.inj).trans Read.u4_ok_iff)
  | long value => exact fixed ((field_ok_iff @long.inj).trans Read.i8_ok_iff)
  | double bits => exact fixed ((field_ok_iff @double.inj).trans Read.u8_ok_iff)
  | classRef name => exact fixed (index_ok_iff @classRef.inj)
  | string text => exact fixed (index_ok_iff @string.inj)
  | methodType descriptor => exact fixed (index_ok_iff @methodType.inj)
  | moduleRef name => exact fixed (index_ok_iff @moduleRef.inj)
  | packageRef name => exact fixed (index_ok_iff @packageRef.inj)
  | fieldRef owner signature => exact fixed (indices_ok_iff @fieldRef.inj)
  | methodRef owner signature => exact fixed (indices_ok_iff @methodRef.inj)
  | interfaceMethodRef owner signature => exact fixed (indices_ok_iff @interfaceMethodRef.inj)
  | nameAndType name descriptor => exact fixed (indices_ok_iff @nameAndType.inj)
  | dynamic bootstrap signature => exact fixed (indices_ok_iff @dynamic.inj)
  | invokeDynamic bootstrap signature => exact fixed (indices_ok_iff @invokeDynamic.inj)
  | methodHandle kind reference =>
    refine fixed ((fields_ok_iff @methodHandle.inj).trans ?_)
    rw [fieldsForm, Cursor.spans_append]
    simp only [Read.u1_ok_iff, Read.u2_ok_iff]

lemma read_ok_iff : read c = .ok entry d ↔ entry.Storable ∧ c.Spans entry.form d := by
  simp only [read, Step.bind_eq_ok_iff, Read.position_ok_iff, Read.u1_ok_iff, form,
    Cursor.spans_append]
  constructor
  · rintro ⟨offset, _, ⟨_, rfl⟩, code, m, hcode, h⟩
    cases htag : Tag.ofCode? code with
    | none => simp [htag, Step.throw_ne_ok] at h
    | some tag =>
      simp only [htag] at h
      obtain rfl := tag_of_readFields h
      obtain rfl := Tag.code_of_ofCode? htag
      obtain ⟨hst, hs⟩ := readFields_ok_iff.mp h
      exact ⟨hst, m, hcode, hs⟩
  · rintro ⟨hst, m, hcode, hs⟩
    refine ⟨c.pos, c, ⟨rfl, rfl⟩, entry.tag.code, m, hcode, ?_⟩
    rw [Tag.ofCode?_code]
    exact readFields_ok_iff.mpr ⟨hst, hs⟩

lemma writePayload_appends (h : bytes.length ≤ maxTextLength) :
    (writePayload bytes).Appends (payloadForm bytes) := by
  rw [writePayload, if_pos h, payloadForm]
  exact (Write.u2_appends (Nat.lt_succ_of_le h)).then (Write.bytes_appends bytes)

lemma Storable.not_tooLong (h : entry.Storable) : ¬ entry.TooLong := by
  intro hlong
  cases hlong with
  | utf8 hlt => exact Nat.not_lt.mpr h hlt
  | rawUtf8 hlt => exact Nat.not_lt.mpr h.1 hlt

lemma writeFields_appends (h : ¬ entry.TooLong) : entry.writeFields.Appends entry.fieldsForm := by
  cases entry with
  | utf8 text => exact writePayload_appends (Nat.not_lt.mp fun hlt => h (.utf8 hlt))
  | rawUtf8 bytes => exact writePayload_appends (Nat.not_lt.mp fun hlt => h (.rawUtf8 hlt))
  | integer | float | long | double | classRef | string | methodType | moduleRef | packageRef =>
    exact Write.bytes_appends _
  | fieldRef | methodRef | interfaceMethodRef | nameAndType | dynamic | invokeDynamic
  | methodHandle => exact (Write.bytes_appends _).then (Write.bytes_appends _)

lemma write_appends_of_not_tooLong (h : ¬ entry.TooLong) : entry.write.Appends entry.form :=
  (Write.bytes_appends _).then (writeFields_appends h)

lemma write_appends (h : entry.Storable) : entry.write.Appends entry.form :=
  write_appends_of_not_tooLong h.not_tooLong

end ClassFile.Constant
