import ClassFile.Proofs.Step
import ClassFile.Text.ModifiedUtf8

namespace ClassFile.Text.ModifiedUtf8

variable {pos : Nat} {lead : UInt8} {bytes rest : List UInt8} {u v : UInt16}

lemma encodeUnit_length (u : UInt16) : (encodeUnit u).length = unitWidth u := by
  have hu := u.toNat_lt
  simp only [encodeUnit, unitWidth]
  split_ifs <;> first | rfl | omega

lemma unitWidth_eq_two_iff :
    unitWidth u = 2 ↔ u.toNat = 0 ∨ 0x80 ≤ u.toNat ∧ u.toNat < 0x800 := by
  rw [unitWidth]
  split_ifs <;> omega

lemma unitWidth_eq_three_iff : unitWidth u = 3 ↔ 0x800 ≤ u.toNat := by
  rw [unitWidth]
  split_ifs <;> omega

lemma continuation_ok_iff {n : Nat} :
    continuation pos bytes = .ok (n, rest) ↔ n < 64 ∧ bytes = .ofNat (0x80 + n) :: rest := by
  constructor
  · intro h
    cases bytes with
    | nil => cases h
    | cons b bytes =>
      simp only [continuation] at h
      split at h
      · simp only [Except.ok.injEq, Prod.mk.injEq] at h
        obtain ⟨rfl, rfl⟩ := h
        have hb : 0x80 + (b.toNat - 0x80) = b.toNat := by omega
        exact ⟨by omega, by rw [hb, UInt8.ofNat_toNat]⟩
      · cases h
  · rintro ⟨hn, rfl⟩
    have hb : (UInt8.ofNat (0x80 + n)).toNat = 0x80 + n :=
      UInt8.toNat_ofNat_of_lt' (by simp only [UInt8.size]; omega)
    simp only [continuation, hb]
    rw [if_pos (by omega), Nat.add_sub_cancel_left]

lemma shortest_ok_iff {width : Nat} :
    shortest pos u width = .ok v ↔ u = v ∧ unitWidth u = width := by
  simp only [shortest]
  split <;> simp [*]

lemma decodeUnit_ascii (h : 0 < lead.toNat ∧ lead.toNat < 0x80) :
    decodeUnit pos lead bytes = .ok (u, rest) ↔ lead.toUInt16 = u ∧ bytes = rest := by
  simp [decodeUnit, h]

lemma decodeUnit_two (h : 0xC0 ≤ lead.toNat ∧ lead.toNat < 0xE0) :
    decodeUnit pos lead bytes = .ok (u, rest) ↔ ∃ low < 64, bytes = .ofNat (0x80 + low) :: rest ∧
      .ofNat ((lead.toNat - 0xC0) * 64 + low) = u ∧ unitWidth u = 2 := by
  rw [decodeUnit, if_neg (by omega), if_pos h]
  simp only [Step.except_bind_eq_ok_iff, Prod.exists, continuation_ok_iff, shortest_ok_iff]
  constructor
  · rintro ⟨low, r, ⟨hlow, rfl⟩, unit, ⟨rfl, hw⟩, ⟨⟩⟩
    exact ⟨low, hlow, rfl, rfl, hw⟩
  · rintro ⟨low, hlow, rfl, rfl, hw⟩
    exact ⟨low, rest, ⟨hlow, rfl⟩, _, ⟨rfl, hw⟩, rfl⟩

lemma decodeUnit_three (h : 0xE0 ≤ lead.toNat ∧ lead.toNat < 0xF0) :
    decodeUnit pos lead bytes = .ok (u, rest) ↔ ∃ mid < 64, ∃ low < 64,
      bytes = .ofNat (0x80 + mid) :: .ofNat (0x80 + low) :: rest ∧
      .ofNat ((lead.toNat - 0xE0) * 4096 + mid * 64 + low) = u ∧ unitWidth u = 3 := by
  rw [decodeUnit, if_neg (by omega), if_neg (by omega), if_pos h]
  simp only [Step.except_bind_eq_ok_iff, Prod.exists, continuation_ok_iff, shortest_ok_iff]
  constructor
  · rintro ⟨mid, _, ⟨hmid, rfl⟩, low, r, ⟨hlow, rfl⟩, unit, ⟨rfl, hw⟩, ⟨⟩⟩
    exact ⟨mid, hmid, low, hlow, rfl, rfl, hw⟩
  · rintro ⟨mid, hmid, low, hlow, rfl, rfl, hw⟩
    exact ⟨mid, _, ⟨hmid, rfl⟩, low, rest, ⟨hlow, rfl⟩, _, ⟨rfl, hw⟩, rfl⟩

lemma decodeUnit_encodeUnit (pos : Nat) (u : UInt16) (rest : List UInt8) :
    ∃ lead bytes, encodeUnit u ++ rest = lead :: bytes ∧
      decodeUnit pos lead bytes = .ok (u, rest) := by
  have hu := u.toNat_lt
  simp only [encodeUnit]
  split_ifs with hone htwo
  · have hl : (UInt8.ofNat u.toNat).toNat = u.toNat :=
      UInt8.toNat_ofNat_of_lt' (by simp only [UInt8.size]; omega)
    refine ⟨_, _, rfl, (decodeUnit_ascii (by omega)).mpr ⟨?_, rfl⟩⟩
    apply UInt16.toNat_inj.mp
    rw [UInt8.toNat_toUInt16, hl]
  · have hl : (UInt8.ofNat (0xC0 + u.toNat / 64)).toNat = 0xC0 + u.toNat / 64 :=
      UInt8.toNat_ofNat_of_lt' (by simp only [UInt8.size]; omega)
    have hn : (0xC0 + u.toNat / 64 - 0xC0) * 64 + u.toNat % 64 = u.toNat := by omega
    refine ⟨_, _, rfl, (decodeUnit_two (by omega)).mpr ⟨u.toNat % 64, by omega, rfl, ?_, ?_⟩⟩
    · rw [hl, hn, UInt16.ofNat_toNat]
    · exact unitWidth_eq_two_iff.mpr (by omega)
  · have hl : (UInt8.ofNat (0xE0 + u.toNat / 4096)).toNat = 0xE0 + u.toNat / 4096 :=
      UInt8.toNat_ofNat_of_lt' (by simp only [UInt8.size]; omega)
    have hn : (0xE0 + u.toNat / 4096 - 0xE0) * 4096 + u.toNat / 64 % 64 * 64 + u.toNat % 64 =
        u.toNat := by omega
    refine ⟨_, _, rfl, (decodeUnit_three (by omega)).mpr
      ⟨u.toNat / 64 % 64, by omega, u.toNat % 64, by omega, rfl, ?_, ?_⟩⟩
    · rw [hl, hn, UInt16.ofNat_toNat]
    · exact unitWidth_eq_three_iff.mpr (by omega)

lemma eq_encodeUnit_of_decodeUnit (h : decodeUnit pos lead bytes = .ok (u, rest)) :
    lead :: bytes = encodeUnit u ++ rest := by
  have hl := lead.toNat_lt
  by_cases hone : 0 < lead.toNat ∧ lead.toNat < 0x80
  · obtain ⟨rfl, rfl⟩ := (decodeUnit_ascii hone).mp h
    simp [encodeUnit, hone]
  by_cases htwo : 0xC0 ≤ lead.toNat ∧ lead.toNat < 0xE0
  · obtain ⟨low, hlow, rfl, rfl, hw⟩ := (decodeUnit_two htwo).mp h
    have hu : (UInt16.ofNat ((lead.toNat - 0xC0) * 64 + low)).toNat =
        (lead.toNat - 0xC0) * 64 + low :=
      UInt16.toNat_ofNat_of_lt' (by simp only [UInt16.size]; omega)
    have hlead : 0xC0 + ((lead.toNat - 0xC0) * 64 + low) / 64 = lead.toNat := by omega
    have hmod : ((lead.toNat - 0xC0) * 64 + low) % 64 = low := by omega
    rw [unitWidth_eq_two_iff, hu] at hw
    simp only [encodeUnit, hu]
    rw [if_neg (by omega), if_pos (by omega), hlead, hmod, UInt8.ofNat_toNat]
    rfl
  by_cases hthree : 0xE0 ≤ lead.toNat ∧ lead.toNat < 0xF0
  · obtain ⟨mid, hmid, low, hlow, rfl, rfl, hw⟩ := (decodeUnit_three hthree).mp h
    have hu : (UInt16.ofNat ((lead.toNat - 0xE0) * 4096 + mid * 64 + low)).toNat =
        (lead.toNat - 0xE0) * 4096 + mid * 64 + low :=
      UInt16.toNat_ofNat_of_lt' (by simp only [UInt16.size]; omega)
    have hlead : 0xE0 + ((lead.toNat - 0xE0) * 4096 + mid * 64 + low) / 4096 = lead.toNat := by
      omega
    have hdiv : ((lead.toNat - 0xE0) * 4096 + mid * 64 + low) / 64 % 64 = mid := by omega
    have hmod : ((lead.toNat - 0xE0) * 4096 + mid * 64 + low) % 64 = low := by omega
    rw [unitWidth_eq_three_iff, hu] at hw
    simp only [encodeUnit, hu]
    rw [if_neg (by omega), if_neg (by omega), hlead, hdiv, hmod, UInt8.ofNat_toNat]
    rfl
  · rw [decodeUnit, if_neg hone, if_neg htwo, if_neg hthree] at h
    cases h

lemma decodeOnto_flatMap (done us : List UInt16) (pos : Nat) :
    decodeOnto done pos (us.flatMap encodeUnit) = .ok (done.reverse ++ us) := by
  induction us generalizing done pos with
  | nil => simp [decodeOnto]
  | cons u us ih =>
    obtain ⟨lead, bytes, he, hd⟩ := decodeUnit_encodeUnit pos u (us.flatMap encodeUnit)
    rw [List.flatMap_cons, he, decodeOnto]
    split
    · simp_all
    · next h =>
      rw [hd] at h
      cases h
      rw [ih, List.reverse_cons, List.append_assoc, List.singleton_append]

lemma eq_flatMap_of_decodeOnto {done units : List UInt16}
    (h : decodeOnto done pos bytes = .ok units) :
    ∃ us : List UInt16, units = done.reverse ++ us ∧ bytes = us.flatMap encodeUnit := by
  fun_induction decodeOnto done pos bytes with
  | case1 done pos =>
    cases h
    exact ⟨[], by simp, rfl⟩
  | case2 => cases h
  | case3 done pos lead bytes u rest hd _ ih =>
    obtain ⟨us, rfl, rfl⟩ := ih h
    exact ⟨u :: us, by simp, eq_encodeUnit_of_decodeUnit hd⟩

lemma decodeUnits_ok_iff {units : List UInt16} :
    decodeUnits bytes = .ok units ↔ bytes = units.flatMap encodeUnit := by
  constructor
  · intro h
    obtain ⟨us, rfl, rfl⟩ := eq_flatMap_of_decodeOnto h
    rfl
  · rintro rfl
    exact decodeOnto_flatMap [] units 0

lemma encode_length (s : String) : (encode s).length = encodedLength s := by
  suffices h : ∀ (us : List UInt16) (n : Nat),
      us.foldl (fun n u => n + unitWidth u) n = n + (us.flatMap encodeUnit).length by
    rw [encodedLength, h, Nat.zero_add, encode]
  intro us
  induction us with
  | nil => simp
  | cons u us ih =>
    intro n
    rw [List.foldl_cons, ih, List.flatMap_cons, List.length_append, encodeUnit_length,
      Nat.add_assoc]

end ClassFile.Text.ModifiedUtf8
