import ClassFile.Proofs.Pool.Lookup
import ClassFile.Proofs.Step

namespace ClassFile

namespace Constant

variable {entry e : Constant}

lemma storable_utf8_iff {text : String} :
    (utf8 text).Storable ↔ ¬ (utf8 text).payloadLength > maxTextLength := by
  rw [Storable, Text.ModifiedUtf8.encode_length, Nat.not_lt]
  rfl

lemma canonical_cases (h : entry.canonical = .ok e) :
    (∃ text, entry = rawUtf8 (Text.ModifiedUtf8.encode text) ∧ e = utf8 text) ∨ e = entry := by
  cases entry with
  | rawUtf8 bytes =>
    rcases ofModifiedUtf8_cases h with ⟨text, rfl, rfl⟩ | rfl
    · exact Or.inl ⟨text, rfl, rfl⟩
    · exact Or.inr rfl
  | _ =>
    cases h
    exact Or.inr rfl

lemma storable_of_canonical (h : entry.canonical = .ok e)
    (hlen : ¬ e.payloadLength > maxTextLength) : e.Storable := by
  cases entry with
  | rawUtf8 bytes =>
    rcases ofModifiedUtf8_cases h with ⟨text, rfl, rfl⟩ | rfl
    · exact storable_utf8_iff.mpr hlen
    · exact ⟨Nat.not_lt.mp hlen, h⟩
  | utf8 text =>
    cases h
    exact storable_utf8_iff.mpr hlen
  | _ =>
    cases h
    exact trivial

end Constant

namespace Pool

inductive Grows : Pool → Pool → Prop
  | push {pool : Pool} {entry : Constant} : entry.Storable → pool.find? entry = none →
      pool.size + entry.slots ≤ maxIndex → Grows pool (pool.push entry)

abbrev Extends : Pool → Pool → Prop := Relation.ReflTransGen Grows

def Knows (pool : Pool) (text : String) : Prop := ∃ i, pool.find? (.utf8 text) = some i

def Holds (pool : Pool) (text : String) : Prop := some (Constant.utf8 text) ∈ pool.slots

instance (pool : Pool) (text : String) : Decidable (pool.Holds text) :=
  decidable_of_iff (_ ∈ pool.slots.toList) Array.mem_toList_iff

variable {pool pool' : Pool} {e : Constant} {i : UInt16} {text : String}

lemma holds_push : (pool.push e).Holds text ↔ pool.Holds text ∨ e = .utf8 text := by
  simp only [Holds, push]
  split <;> simp [eq_comm]

lemma Valid.holds_iff_get (hv : pool.Valid) :
    pool.Holds text ↔ ∃ i, pool.get i = .ok (.utf8 text) := by
  constructor
  · intro h
    obtain ⟨k, hk⟩ := Array.getElem?_of_mem h
    have hlt : k < pool.size := (Array.getElem?_eq_some_iff.mp hk).1
    have hmax : k < Pool.maxIndex + 1 := hlt.trans (Nat.lt_succ_of_le hv.size_le)
    have hi : (UInt16.ofNat (k + 1)).toNat = k + 1 :=
      UInt16.toNat_ofNat_of_lt' (Nat.succ_lt_succ hmax)
    refine ⟨.ofNat (k + 1), get_ok_iff.mpr ?_⟩
    rw [hi]
    exact ⟨Nat.succ_pos k, hk⟩
  · rintro ⟨i, hi⟩
    exact Array.mem_of_getElem? (get_ok_iff.mp hi).2

lemma Valid.knows_iff_holds (hv : pool.Valid) : pool.Knows text ↔ pool.Holds text := by
  rw [hv.holds_iff_get]
  constructor
  · rintro ⟨i, hi⟩
    exact ⟨i, (hv.find?_eq_some_iff.mp hi).holds⟩
  · rintro ⟨i, hi⟩
    obtain ⟨j, hj⟩ := exists_lowest hi
    exact ⟨j, hv.find?_eq_some_iff.mpr hj⟩

lemma find?_grows (h : Grows pool pool') (hf : pool.find? e = some i) :
    pool'.find? e = some i := by
  cases h with
  | push _ habsent _ =>
    rw [find?_push, if_neg, hf]
    rintro ⟨rfl, _⟩
    simp [habsent] at hf

lemma find?_extends (h : Extends pool pool') (hf : pool.find? e = some i) :
    pool'.find? e = some i := by
  induction h with
  | refl => exact hf
  | tail _ hg ih => exact find?_grows hg ih

lemma Valid.extends (hv : pool.Valid) (h : Extends pool pool') : pool'.Valid := by
  induction h with
  | refl => exact hv
  | tail _ hg ih =>
    cases hg with
    | push hst _ hfit => exact .push ih hst hfit

lemma Knows.extends (hk : pool.Knows text) (h : Extends pool pool') : pool'.Knows text :=
  hk.imp fun _ => find?_extends h

end Pool

namespace Intern

variable {pool pool' : Pool} {entry e : Constant} {i : UInt16} {text : String}

lemma add_eq (entry : Constant) (pool : Pool) :
    add entry pool =
      match entry.canonical with
      | .error fault => .error fault pool
      | .ok e =>
        match pool.find? e with
        | some i => .ok i pool
        | none =>
          if e.payloadLength > Constant.maxTextLength then
            .error (.malformed (.textTooLong e.payloadLength)) pool
          else if pool.size + e.slots > Pool.maxIndex then .error .poolOverflow pool
          else .ok pool.nextIndex (pool.push e) := by
  rw [add, Step.ofExcept_bind]
  cases entry.canonical with
  | error fault => rfl
  | ok e =>
    dsimp only
    rw [Step.get_bind]
    cases pool.find? e with
    | some i => rfl
    | none =>
      dsimp only
      rw [Step.check_apply, Step.get_bind, Step.check_apply]
      rfl

lemma add_of_error {fault : Error} (hc : entry.canonical = .error fault) :
    add entry pool = .error fault pool := by
  rw [add_eq, hc]

lemma add_of_present (hc : entry.canonical = .ok e) (hf : pool.find? e = some i) :
    add entry pool = .ok i pool := by
  rw [add_eq, hc]
  dsimp only
  rw [hf]

lemma add_of_absent (hc : entry.canonical = .ok e) (hf : pool.find? e = none) :
    add entry pool =
      if e.payloadLength > Constant.maxTextLength then
        .error (.malformed (.textTooLong e.payloadLength)) pool
      else if pool.size + e.slots > Pool.maxIndex then .error .poolOverflow pool
      else .ok pool.nextIndex (pool.push e) := by
  rw [add_eq, hc]
  dsimp only
  rw [hf]

lemma add_walks (entry : Constant) : Step.Walks Pool.Grows (add entry) := by
  intro pool
  rw [Step.after]
  cases hc : entry.canonical with
  | error fault =>
    rw [add_of_error hc]
  | ok e =>
    cases hf : pool.find? e with
    | some i =>
      rw [add_of_present hc hf]
    | none =>
      rw [add_of_absent hc hf]
      by_cases hlen : e.payloadLength > Constant.maxTextLength
      · rw [if_pos hlen]
      by_cases hfit : pool.size + e.slots > Pool.maxIndex
      · rw [if_neg hlen, if_pos hfit]
      · rw [if_neg hlen, if_neg hfit]
        exact .single (.push (Constant.storable_of_canonical hc hlen) hf (Nat.not_lt.mp hfit))

lemma find?_of_add (h : add entry pool = .ok i pool') :
    ∃ e, entry.canonical = .ok e ∧ pool'.find? e = some i := by
  cases hc : entry.canonical with
  | error fault =>
    rw [add_of_error hc] at h
    cases h
  | ok e =>
    refine ⟨e, rfl, ?_⟩
    cases hf : pool.find? e with
    | some j =>
      rw [add_of_present hc hf] at h
      cases h
      exact hf
    | none =>
      rw [add_of_absent hc hf] at h
      split_ifs at h
      cases h
      rw [Pool.find?_push, if_pos ⟨rfl, hf⟩]

lemma addText_ok (hst : (Constant.utf8 text).Storable) (hroom : pool.size < Pool.maxIndex) :
    ∃ i pool', addText text pool = .ok i pool' ∧ pool'.size ≤ pool.size + 1 := by
  cases hf : pool.find? (.utf8 text) with
  | some i => exact ⟨i, pool, add_of_present rfl hf, Nat.le_succ _⟩
  | none =>
    have hfit : ¬ pool.size + (Constant.utf8 text).slots > Pool.maxIndex := Nat.not_lt.mpr hroom
    rw [addText, add_of_absent rfl hf, if_neg (Constant.storable_utf8_iff.mp hst), if_neg hfit]
    exact ⟨_, _, rfl, Nat.le_of_eq (Pool.size_push ..)⟩

lemma knows_of_addText (h : addText text pool = .ok i pool') : pool'.Knows text := by
  obtain ⟨e, he, hf⟩ := find?_of_add h
  cases he
  exact ⟨i, hf⟩

end Intern

end ClassFile
