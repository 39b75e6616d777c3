import ClassFile.Text.Utf16
import Mathlib.Tactic.Common

namespace ClassFile.Text.Utf16

variable {u v : UInt16} {units rest : List UInt16}

lemma toNat_ofNat_of_valid {n : Nat} (h : n.isValidChar) : (Char.ofNat n).toNat = n := by
  rw [Char.ofNat, dif_pos h]
  rfl

lemma encodeChar_unitChar (hh : ¬ IsHigh u) (hl : ¬ IsLow u) : encodeChar (unitChar u) = [u] := by
  have hu := u.toNat_lt
  have hn : (unitChar u).toNat = u.toNat := by
    apply toNat_ofNat_of_valid
    simp only [IsHigh, IsLow, Nat.isValidChar] at *
    omega
  rw [encodeChar, hn, if_pos (by omega), UInt16.ofNat_toNat]

lemma encodeChar_pairChar (hu : IsHigh u) (hv : IsLow v) : encodeChar (pairChar u v) = [u, v] := by
  simp only [IsHigh, IsLow] at hu hv
  have hn : (pairChar u v).toNat = 0x10000 + (u.toNat - 0xD800) * 0x400 + (v.toNat - 0xDC00) := by
    apply toNat_ofNat_of_valid
    simp only [Nat.isValidChar]
    omega
  have hhigh : 0xD800 + ((pairChar u v).toNat - 0x10000) / 0x400 = u.toNat := by omega
  have hlow : 0xDC00 + ((pairChar u v).toNat - 0x10000) % 0x400 = v.toNat := by omega
  rw [encodeChar, if_neg (by omega), hhigh, hlow, UInt16.ofNat_toNat, UInt16.ofNat_toNat]

lemma encodeChar_small {c : Char} (h : c.toNat < 0x10000) :
    ∃ u, encodeChar c = [u] ∧ ¬ IsHigh u ∧ ¬ IsLow u ∧ unitChar u = c := by
  have hc : c.toNat < 0xD800 ∨ 0xDFFF < c.toNat ∧ c.toNat < 0x110000 := c.valid
  have hu : (UInt16.ofNat c.toNat).toNat = c.toNat := UInt16.toNat_ofNat_of_lt' h
  refine ⟨.ofNat c.toNat, by rw [encodeChar, if_pos h], ?_, ?_, ?_⟩
  · simp only [IsHigh, hu]
    omega
  · simp only [IsLow, hu]
    omega
  · rw [unitChar, hu, Char.ofNat_toNat]

lemma encodeChar_supplementary {c : Char} (h : ¬ c.toNat < 0x10000) :
    ∃ u v, encodeChar c = [u, v] ∧ IsHigh u ∧ IsLow v ∧ pairChar u v = c := by
  have hc : c.toNat < 0xD800 ∨ 0xDFFF < c.toNat ∧ c.toNat < 0x110000 := c.valid
  have hhigh : 0xD800 + (c.toNat - 0x10000) / 0x400 < 0xDC00 := by omega
  have hlow : 0xDC00 + (c.toNat - 0x10000) % 0x400 < 0xE000 := by omega
  have hu := UInt16.toNat_ofNat_of_lt' (Nat.lt_trans hhigh (by decide : 0xDC00 < UInt16.size))
  have hv := UInt16.toNat_ofNat_of_lt' (Nat.lt_trans hlow (by decide : 0xE000 < UInt16.size))
  have hsum : 0x10000 + (0xD800 + (c.toNat - 0x10000) / 0x400 - 0xD800) * 0x400 +
      (0xDC00 + (c.toNat - 0x10000) % 0x400 - 0xDC00) = c.toNat := by omega
  refine ⟨_, _, by rw [encodeChar, if_neg h], ?_, ?_, ?_⟩
  · simp only [IsHigh, hu]
    omega
  · simp only [IsLow, hv]
    omega
  · rw [pairChar, hu, hv, hsum, Char.ofNat_toNat]

lemma decodeOnto_encodeChar (done : List Char) (c : Char) (rest : List UInt16) :
    decodeOnto done (encodeChar c ++ rest) = decodeOnto (c :: done) rest := by
  by_cases hn : c.toNat < 0x10000
  · obtain ⟨u, he, hh, hl, hc⟩ := encodeChar_small hn
    rw [he, List.singleton_append, decodeOnto.eq_def]
    simp only [if_neg hh, if_neg hl, hc]
  · obtain ⟨u, v, he, hh, hl, hc⟩ := encodeChar_supplementary hn
    rw [he, List.cons_append, List.singleton_append, decodeOnto.eq_def]
    simp only [if_pos hh, if_pos hl, hc]

lemma decodeOnto_flatMap (done cs : List Char) :
    decodeOnto done (cs.flatMap encodeChar) = some (.ofList (done.reverse ++ cs)) := by
  induction cs generalizing done with
  | nil => simp [decodeOnto]
  | cons c cs ih =>
    rw [List.flatMap_cons, decodeOnto_encodeChar, ih, List.reverse_cons, List.append_assoc,
      List.singleton_append]

lemma eq_flatMap_of_decodeOnto {done : List Char} {units : List UInt16} {s : String}
    (h : decodeOnto done units = some s) :
    ∃ cs : List Char, s = .ofList (done.reverse ++ cs) ∧ units = cs.flatMap encodeChar := by
  fun_induction decodeOnto done units with
  | case1 done =>
    cases h
    exact ⟨[], by simp, rfl⟩
  | case2 done u hu v rest hv ih =>
    obtain ⟨cs, rfl, rfl⟩ := ih h
    refine ⟨pairChar u v :: cs, by simp, ?_⟩
    rw [List.flatMap_cons, encodeChar_pairChar hu hv]
    rfl
  | case3 | case4 | case5 => cases h
  | case6 done u rest hu hl ih =>
    obtain ⟨cs, rfl, rfl⟩ := ih h
    refine ⟨unitChar u :: cs, by simp, ?_⟩
    rw [List.flatMap_cons, encodeChar_unitChar hu hl]
    rfl

lemma decode?_encode (s : String) : decode? (encode s) = some s := by
  rw [decode?, encode, decodeOnto_flatMap, List.reverse_nil, List.nil_append, String.ofList_toList]

lemma decode?_eq_some_iff {units : List UInt16} {s : String} :
    decode? units = some s ↔ units = encode s := by
  refine ⟨fun h => ?_, fun h => h ▸ decode?_encode s⟩
  obtain ⟨cs, rfl, rfl⟩ := eq_flatMap_of_decodeOnto h
  simp [encode]

lemma not_high_of_low (h : IsLow u) : ¬ IsHigh u := by
  simp only [IsLow, IsHigh] at *
  omega

lemma hasUnpaired_of_high (hu : IsHigh u) (hrest : ∀ v ∈ rest.head?, ¬ IsLow v) :
    HasUnpaired (u :: rest) :=
  ⟨[], u, rest, rfl, Or.inl ⟨hu, hrest⟩⟩

lemma hasUnpaired_of_low (hu : IsLow u) : HasUnpaired (u :: rest) :=
  ⟨[], u, rest, rfl, Or.inr ⟨hu, by simp⟩⟩

lemma not_hasUnpaired_nil : ¬ HasUnpaired [] := by
  rintro ⟨before, u, after, h, _⟩
  simp at h

lemma not_hasUnpaired_unit (hh : ¬ IsHigh u) (hl : ¬ IsLow u) : ¬ HasUnpaired [u] := by
  rintro ⟨before, w, after, h, hw⟩
  obtain ⟨rfl, rfl, rfl⟩ : before = [] ∧ w = u ∧ after = [] := by
    simpa [List.singleton_eq_append_iff] using h
  simp [hh, hl] at hw

lemma not_hasUnpaired_pair (hu : IsHigh u) (hv : IsLow v) : ¬ HasUnpaired [u, v] := by
  have hv' := not_high_of_low hv
  rintro ⟨before, w, after, h, hw⟩
  match before with
  | [] =>
    obtain ⟨rfl, rfl⟩ : u = w ∧ [v] = after := by simpa using h
    have hu' : ¬ IsLow u := fun hl => not_high_of_low hl hu
    simp [hv, hu'] at hw
  | [x] =>
    obtain ⟨rfl, rfl, rfl⟩ : u = x ∧ v = w ∧ after = [] := by simpa using h
    simp [hu, hv'] at hw
  | x :: y :: before => simp at h

lemma hasUnpaired_append (hunits : ¬ HasUnpaired units) (hlast : ∀ v ∈ units.getLast?, ¬ IsHigh v) :
    HasUnpaired (units ++ rest) ↔ HasUnpaired rest := by
  constructor
  · rintro ⟨before, w, after, h, hw⟩
    rcases List.append_eq_append_iff.mp h with ⟨front, rfl, rfl⟩ | ⟨back, rfl, hback⟩
    · refine ⟨front, w, after, rfl, hw.imp_right fun ⟨hl, hb⟩ => ⟨hl, fun v hv => hb v ?_⟩⟩
      simp [List.getLast?_append, Option.mem_def.mp hv]
    · cases back with
      | nil =>
        obtain rfl : w :: after = rest := hback
        rcases hw with ⟨hh, ha⟩ | ⟨hl, _⟩
        · exact hasUnpaired_of_high hh ha
        · exact hasUnpaired_of_low hl
      | cons b back =>
        obtain ⟨rfl, rfl⟩ : w = b ∧ after = back ++ rest := by simpa using hback
        -- the unit at fault is one of `units`, and what lacks there is no unit of `rest`
        refine absurd ⟨before, w, back, rfl, hw.imp_left fun ⟨hh, ha⟩ => ⟨hh, ?_⟩⟩ hunits
        cases back with
        | nil => simp
        | cons x back => simpa using ha
  · rintro ⟨before, w, after, rfl, hw⟩
    refine ⟨units ++ before, w, after, (List.append_assoc ..).symm, hw.imp_right ?_⟩
    rintro ⟨hl, hb⟩
    refine ⟨hl, fun v hv => ?_⟩
    rw [List.getLast?_append, Option.mem_def, Option.or_eq_some_iff] at hv
    rcases hv with hv | ⟨_, hv⟩
    · exact hb v hv
    · exact hlast v hv

lemma decodeOnto_eq_none_iff {done : List Char} :
    decodeOnto done units = none ↔ HasUnpaired units := by
  fun_induction decodeOnto done units with
  | case1 done => simp [not_hasUnpaired_nil]
  | case2 done u hu v rest hv ih =>
    have hlast : ∀ w ∈ [u, v].getLast?, ¬ IsHigh w := by simpa using not_high_of_low hv
    exact ih.trans (hasUnpaired_append (not_hasUnpaired_pair hu hv) hlast).symm
  | case3 done u hu v rest hv =>
    exact iff_of_true rfl (hasUnpaired_of_high hu (by simpa using hv))
  | case4 done u hu => exact iff_of_true rfl (hasUnpaired_of_high hu (by simp))
  | case5 done u rest _ hl => exact iff_of_true rfl (hasUnpaired_of_low hl)
  | case6 done u rest hu hl ih =>
    have hlast : ∀ w ∈ [u].getLast?, ¬ IsHigh w := by simpa using hu
    exact ih.trans (hasUnpaired_append (not_hasUnpaired_unit hu hl) hlast).symm

lemma decode?_eq_none_iff : decode? units = none ↔ HasUnpaired units := decodeOnto_eq_none_iff

end ClassFile.Text.Utf16
