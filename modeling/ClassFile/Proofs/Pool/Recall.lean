import ClassFile.Proofs.Pool.Stability

/-! Looking an entry up after interning it. Raw text with a string form went in as the string, and
only that is found. -/

namespace ClassFile.Pool

open Text.ModifiedUtf8

variable {pool pool' : Pool} {entry e : Constant} {i : UInt16}

lemma canonical_eq_self_iff (hc : entry.canonical = .ok e) :
    e = entry ↔ ∀ text, entry ≠ .rawUtf8 (encode text) := by
  cases entry with
  | rawUtf8 raw =>
    rcases Constant.ofModifiedUtf8_cases hc with ⟨text, rfl, rfl⟩ | rfl
    · exact iff_of_false nofun fun h => h text rfl
    · refine iff_of_true rfl ?_
      rintro text ⟨⟩
      rw [Constant.canonical, Constant.ofModifiedUtf8_encode] at hc
      cases hc
  | _ =>
    cases hc
    exact iff_of_true rfl nofun

lemma Valid.find?_text_form (hv : pool.Valid) (text : String) :
    pool.find? (.rawUtf8 (encode text)) = none := by
  rw [hv.find?_eq_none_iff]
  intro i hi
  have hst := (hv.storable_of_get hi).2
  rw [Constant.ofModifiedUtf8_encode] at hst
  cases hst

lemma Valid.indexOf_after_add (hv : pool.Valid) (h : Intern.add entry pool = .ok i pool')
    (calls : List Call) :
    ∃ e, entry.canonical = .ok e ∧ (pool'.afterAll calls).indexOf e = .ok i := by
  obtain ⟨e, hc, hl⟩ := hv.lowest_of_add h
  have hf := find?_extends (extends_afterAll pool' calls) ((hv.of_add h).find?_eq_some_iff.mpr hl)
  exact ⟨e, hc, Pool.indexOf_ok_iff.mpr hf⟩

theorem indexOf_added_iff (hr : pool.Reachable) (h : Intern.add entry pool = .ok i pool')
    (calls : List Call) :
    ((pool'.afterAll calls).indexOf entry = .ok i ↔ ∀ text, entry ≠ .rawUtf8 (encode text)) ∧
    ∀ text, entry = .rawUtf8 (encode text) →
      (pool'.afterAll calls).indexOf entry = .error (.unresolvedEntry entry) ∧
      (pool'.afterAll calls).indexOf (.utf8 text) = .ok i := by
  obtain ⟨e, hc, hi⟩ := hr.valid.indexOf_after_add h calls
  have htext : ∀ text, entry = .rawUtf8 (encode text) →
      (pool'.afterAll calls).indexOf entry = .error (.unresolvedEntry entry) := by
    rintro text rfl
    have hv := (hr.valid.of_add h).extends (extends_afterAll pool' calls)
    rw [indexOf, hv.find?_text_form]
  constructor
  · constructor
    · intro hself text ht
      rw [htext text ht] at hself
      cases hself
    · intro hne
      rwa [(canonical_eq_self_iff hc).mpr hne] at hi
  · rintro text rfl
    refine ⟨htext text rfl, ?_⟩
    rw [Constant.canonical, Constant.ofModifiedUtf8_encode] at hc
    cases hc
    exact hi

def loneSurrogate : Constant := .rawUtf8 [0xED, 0xA0, 0x80]

lemma canonical_loneSurrogate : loneSurrogate.canonical = .ok loneSurrogate := by
  have hlone : Text.Utf16.HasUnpaired [0xD800] :=
    Text.Utf16.hasUnpaired_of_high (by decide) (by simp)
  exact Constant.ofModifiedUtf8_eq_raw_iff.mpr ⟨[0xD800], hlone, rfl⟩

theorem indexOf_added_loneSurrogate :
    ∃ pool', Intern.add loneSurrogate doubled = .ok 3 pool' ∧
      (pool'.afterAll sampleRun).indexOf loneSurrogate = .ok 3 := by
  have hf : doubled.find? loneSurrogate = none := by
    simp only [doubled, loneSurrogate, find?_push, find?_empty, reduceCtorEq, false_and, if_false]
  have h : Intern.add loneSurrogate doubled = .ok 3 (doubled.push loneSurrogate) :=
    Intern.add_of_absent canonical_loneSurrogate hf
  have hne : ∀ text, loneSurrogate ≠ .rawUtf8 (encode text) :=
    (canonical_eq_self_iff canonical_loneSurrogate).mp rfl
  exact ⟨_, h, (indexOf_added_iff doubled_reachable h sampleRun).1.mpr hne⟩

theorem indexOf_added_raw_letter :
    Pool.empty.Reachable ∧ ∃ pool', Intern.add (.rawUtf8 [0x61]) Pool.empty = .ok 1 pool' ∧
      pool'.indexOf (.rawUtf8 [0x61]) = .error (.unresolvedEntry (.rawUtf8 [0x61])) := by
  have hc : (Constant.rawUtf8 [0x61]).canonical = .ok (.utf8 "a") :=
    Constant.ofModifiedUtf8_encode "a"
  have h : Intern.add (.rawUtf8 [0x61]) Pool.empty = .ok 1 (Pool.empty.push (.utf8 "a")) :=
    Intern.add_of_absent hc find?_empty
  have hf : (Pool.empty.push (.utf8 "a")).find? (.rawUtf8 [0x61]) = none :=
    (Valid.of_add .empty h).find?_text_form "a"
  refine ⟨.empty, _, h, ?_⟩
  rw [indexOf, hf]

end ClassFile.Pool
