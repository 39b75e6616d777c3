import ClassFile.Text.Utf8
import Mathlib.Tactic.Common

namespace ClassFile.Text.Utf8

variable {a c : Char} {b : UInt8} {cs : List Char}

def encodeChars (cs : List Char) : List UInt8 := cs.flatMap String.utf8EncodeChar

@[simp]
lemma encodeChars_nil : encodeChars [] = [] := rfl

@[simp]
lemma encodeChars_append (cs ds : List Char) :
    encodeChars (cs ++ ds) = encodeChars cs ++ encodeChars ds :=
  List.flatMap_append

lemma encode_ofList (cs : List Char) : encode (.ofList cs) = encodeChars cs := by
  rw [encode, String.toList_ofList, encodeChars]

lemma encode_inj {s t : String} : encode s = encode t ↔ s = t := by
  refine ⟨fun h => ?_, congrArg encode⟩
  have hs := decode?_encode s
  rw [h, decode?_encode] at hs
  exact (Option.some.inj hs).symm

def IsAscii (c : Char) : Prop := c.toNat < 0x80

instance : DecidablePred IsAscii := fun _ => inferInstanceAs (Decidable (_ < _))

lemma utf8EncodeChar_ascii (h : IsAscii a) : String.utf8EncodeChar a = [a.toUInt8] := by
  have hle : a.val.toNat ≤ 0x7F := Nat.le_of_lt_succ h
  simp only [String.utf8EncodeChar, if_pos hle]
  rfl

lemma le_of_mem_utf8EncodeChar (h : ¬ IsAscii c) (hb : b ∈ String.utf8EncodeChar c) :
    0x80 ≤ b.toNat := by
  have hgt : ¬ c.val.toNat ≤ 0x7F := fun hle => h (Nat.lt_succ_of_le hle)
  simp only [String.utf8EncodeChar, if_neg hgt] at hb
  split_ifs at hb
  all_goals
    simp only [List.mem_cons, List.not_mem_nil, or_false] at hb
    rcases hb with rfl | rfl | rfl | rfl <;> rw [UInt8.toNat_ofNat'] <;> omega

lemma encodeChars_cons (h : IsAscii a) (cs : List Char) :
    encodeChars (a :: cs) = a.toUInt8 :: encodeChars cs := by
  rw [encodeChars, List.flatMap_cons, utf8EncodeChar_ascii h]
  rfl

lemma toNat_toUInt8 (h : IsAscii a) : a.toUInt8.toNat = a.toNat :=
  UInt8.toNat_ofNat_of_lt' (Nat.lt_trans h (by decide))

lemma toUInt8_inj (ha : IsAscii a) (hc : IsAscii c) : a.toUInt8 = c.toUInt8 ↔ a = c := by
  rw [← UInt8.toNat_inj, toNat_toUInt8 ha, toNat_toUInt8 hc, Char.toNat_inj]

lemma toUInt8_mem_encodeChars (ha : IsAscii a) : a.toUInt8 ∈ encodeChars cs ↔ a ∈ cs := by
  simp only [encodeChars, List.mem_flatMap]
  constructor
  · rintro ⟨c, hc, hb⟩
    by_cases hascii : IsAscii c
    · rw [utf8EncodeChar_ascii hascii, List.mem_singleton, toUInt8_inj ha hascii] at hb
      rwa [hb]
    · have hle := le_of_mem_utf8EncodeChar hascii hb
      rw [toNat_toUInt8 ha] at hle
      exact absurd ha (Nat.not_lt.mpr hle)
  · intro h
    exact ⟨a, h, by rw [utf8EncodeChar_ascii ha]; exact List.mem_singleton_self _⟩

lemma length_encode (s : String) : (encode s).length = s.utf8ByteSize := by
  rw [← String.size_toByteArray, ← toByteArray_encode]
  simp

lemma eq_of_utf8EncodeChar_append {u v : List UInt8}
    (h : String.utf8EncodeChar a ++ u = String.utf8EncodeChar c ++ v) : a = c := by
  have ha : (String.utf8EncodeChar a ++ u).toByteArray.utf8DecodeChar? 0 = some a := by
    rw [List.toByteArray_append]
    exact ByteArray.utf8DecodeChar?_utf8EncodeChar_append
  rw [h, List.toByteArray_append, ByteArray.utf8DecodeChar?_utf8EncodeChar_append] at ha
  exact (Option.some.inj ha).symm

lemma encodeChars_eq_append {ds : List Char} {rest : List UInt8}
    (h : encodeChars ds = encodeChars cs ++ rest) :
    ∃ es, ds = cs ++ es ∧ encodeChars es = rest := by
  induction cs generalizing ds with
  | nil => exact ⟨ds, rfl, h⟩
  | cons c cs ih =>
    cases ds with
    | nil => simp [encodeChars, String.utf8EncodeChar_ne_nil] at h
    | cons d ds =>
      simp only [encodeChars, List.flatMap_cons, List.append_assoc] at h
      obtain rfl := eq_of_utf8EncodeChar_append h
      obtain ⟨es, rfl, hes⟩ := ih (List.append_cancel_left h)
      exact ⟨es, rfl, hes⟩

end ClassFile.Text.Utf8
