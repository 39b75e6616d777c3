import ClassFile.Pool.Basic
import ClassFile.Proofs.Constant.Form

namespace ClassFile.Pool

inductive Valid : Pool → Prop
  | empty : Valid empty
  | push {pool : Pool} {entry : Constant} : Valid pool → entry.Storable →
      pool.size + entry.slots ≤ maxIndex → Valid (pool.push entry)

structure Lowest (pool : Pool) (entry : Constant) (index : UInt16) : Prop where
  holds : pool.get index = .ok entry
  le : ∀ i, pool.get i = .ok entry → index ≤ i

variable {pool : Pool} {entry e : Constant} {i j : UInt16}

lemma Valid.size_le (hv : pool.Valid) : pool.size ≤ maxIndex := by
  cases hv with
  | empty => exact Nat.zero_le _
  | push _ _ hfit => rwa [size_push]

lemma toNat_nextIndex (h : pool.size ≤ maxIndex) : pool.nextIndex.toNat = pool.size + 1 :=
  UInt16.toNat_ofNat_of_lt' (Nat.lt_succ_of_le (Nat.succ_le_succ h))

lemma get_ok_iff :
    pool.get i = .ok e ↔ 0 < i.toNat ∧ pool.slots[i.toNat - 1]? = some (some e) := by
  by_cases h0 : i = 0
  · simp [get, h0]
  · have hpos : 0 < i.toNat := Nat.pos_of_ne_zero fun h => h0 (UInt16.toNat_inj.mp h)
    rw [get, if_neg h0]
    split <;> simp_all

lemma get_empty : empty.get i ≠ .ok e := by
  rw [ne_eq, get_ok_iff]
  simp [empty]

lemma index_le_size (h : pool.get i = .ok e) : 0 < i.toNat ∧ i.toNat ≤ pool.size := by
  obtain ⟨hpos, hs⟩ := get_ok_iff.mp h
  obtain ⟨hlt, _⟩ := Array.getElem?_eq_some_iff.mp hs
  rw [size]
  omega

lemma getElem?_push (k : Nat) :
    (pool.push entry).slots[k]? =
      if k < pool.size then pool.slots[k]?
      else if k = pool.size then some (some entry)
      else if k = pool.size + 1 ∧ entry.isWide then some none
      else none := by
  simp only [push, size]
  cases hw : entry.isWide with
  | false => grind
  | true => grind

lemma get_push_ok_iff (h : pool.size ≤ maxIndex) :
    (pool.push entry).get i = .ok e ↔
      pool.get i = .ok e ∨ i = pool.nextIndex ∧ e = entry := by
  have hn := toNat_nextIndex h
  have hi : i = pool.nextIndex ↔ i.toNat = pool.size + 1 := by rw [← UInt16.toNat_inj, hn]
  rw [get_ok_iff, get_ok_iff, getElem?_push, hi]
  constructor
  · rintro ⟨hpos, hs⟩
    split_ifs at hs with hlt heq
    · exact Or.inl ⟨hpos, hs⟩
    · exact Or.inr ⟨by omega, by simpa [eq_comm] using hs⟩
    · cases hs
  · rintro (⟨hpos, hs⟩ | ⟨hi, rfl⟩)
    · have hlt := (index_le_size (get_ok_iff.mpr ⟨hpos, hs⟩)).2
      exact ⟨hpos, by rw [if_pos (by omega), hs]⟩
    · exact ⟨by omega, by rw [if_neg (by omega), if_pos (by omega)]⟩

lemma exists_lowest (h : pool.get i = .ok e) : ∃ j, pool.Lowest e j := by
  induction hn : i.toNat using Nat.strongRecOn generalizing i with
  | ind n ih =>
    by_cases hl : ∃ j, pool.get j = .ok e ∧ j < i
    · obtain ⟨j, hj, hlt⟩ := hl
      exact ih j.toNat (hn ▸ UInt16.lt_iff_toNat_lt.mp hlt) hj rfl
    · exact ⟨i, h, fun j hj => UInt16.not_lt.mp fun hlt => hl ⟨j, hj, hlt⟩⟩

lemma Lowest.unique (h : pool.Lowest e i) (h' : pool.Lowest e j) : i = j :=
  UInt16.le_antisymm (h.le j h'.holds) (h'.le i h.holds)

lemma lowest_push_of_lowest (hs : pool.size ≤ maxIndex) (h : pool.Lowest e i) :
    (pool.push entry).Lowest e i := by
  refine ⟨(get_push_ok_iff hs).mpr (Or.inl h.holds), fun j hj => ?_⟩
  rcases (get_push_ok_iff hs).mp hj with hj | ⟨rfl, rfl⟩
  · exact h.le j hj
  · have hi := (index_le_size h.holds).2
    rw [UInt16.le_iff_toNat_le, toNat_nextIndex hs]
    omega

lemma lowest_push_of_absent (hs : pool.size ≤ maxIndex) (h : ∀ i, pool.get i ≠ .ok entry) :
    (pool.push entry).Lowest entry pool.nextIndex := by
  refine ⟨(get_push_ok_iff hs).mpr (Or.inr ⟨rfl, rfl⟩), fun j hj => ?_⟩
  rcases (get_push_ok_iff hs).mp hj with hj | ⟨rfl, _⟩
  · exact absurd hj (h j)
  · exact UInt16.le_refl _

lemma find?_empty : empty.find? e = none := by
  simp [find?, empty]

lemma find?_push :
    (pool.push entry).find? e =
      if entry = e ∧ pool.find? entry = none then some pool.nextIndex else pool.find? e := by
  simp only [push, find?, Std.HashMap.getElem?_insertIfNew, beq_iff_eq,
    getElem?_eq_none_iff]

lemma Valid.find?_eq_some_iff (hv : pool.Valid) : pool.find? e = some i ↔ pool.Lowest e i := by
  induction hv generalizing e i with
  | empty =>
    constructor
    · simp [find?_empty]
    · exact fun h => absurd h.holds get_empty
  | @push pool entry hv hst hfit ih =>
    have hs := hv.size_le
    rw [find?_push]
    split_ifs with hnew
    · obtain ⟨rfl, hnone⟩ := hnew
      have habsent : ∀ j, pool.get j ≠ .ok entry := by
        intro j hj
        obtain ⟨k, hk⟩ := exists_lowest hj
        simp [ih.mpr hk] at hnone
      have hl := lowest_push_of_absent hs habsent
      exact ⟨fun h => Option.some.inj h ▸ hl, fun h => congrArg some (hl.unique h)⟩
    · refine ⟨fun h => lowest_push_of_lowest hs (ih.mp h), fun h => ?_⟩
      have hfound : ∃ j, pool.find? e = some j := by
        rcases (get_push_ok_iff hs).mp h.holds with hi | ⟨_, rfl⟩
        · obtain ⟨j, hj⟩ := exists_lowest hi
          exact ⟨j, ih.mpr hj⟩
        · exact Option.ne_none_iff_exists'.mp fun hnone => hnew ⟨rfl, hnone⟩
      obtain ⟨j, hj⟩ := hfound
      rw [hj, h.unique (lowest_push_of_lowest hs (ih.mp hj))]

lemma Valid.find?_eq_none_iff (hv : pool.Valid) :
    pool.find? e = none ↔ ∀ i, pool.get i ≠ .ok e := by
  constructor
  · intro hn i hi
    obtain ⟨j, hj⟩ := exists_lowest hi
    simp [hv.find?_eq_some_iff.mpr hj] at hn
  · intro h
    cases hf : pool.find? e with
    | none => rfl
    | some i => exact absurd (hv.find?_eq_some_iff.mp hf).holds (h i)

lemma Valid.storable_of_get (hv : pool.Valid) (h : pool.get i = .ok e) : e.Storable := by
  induction hv with
  | empty => exact absurd h get_empty
  | push hv hst _ ih =>
    rcases (get_push_ok_iff hv.size_le).mp h with h | ⟨_, rfl⟩
    · exact ih h
    · exact hst

lemma indexOf_ok_iff : pool.indexOf e = .ok i ↔ pool.find? e = some i := by
  rw [indexOf]
  split <;> simp [*]

lemma indexOfText_ok_iff {text : String} :
    pool.indexOfText text = .ok i ↔ pool.find? (.utf8 text) = some i := by
  rw [indexOfText]
  split <;> simp [*]

lemma textAt_ok_iff {text : String} :
    pool.textAt i = .ok text ↔ pool.get i = .ok (.utf8 text) := by
  rw [textAt]
  split <;> simp_all

lemma entries_push :
    (pool.push entry).entries = pool.entries ++ [(pool.nextIndex, entry)] := by
  simp only [entries, entriesFrom, push, nextIndex, size]
  cases entry.isWide <;> simp [List.zipIdx_append, UInt16.add_comm]

lemma entries_empty : empty.entries = [] := rfl

lemma Valid.mem_entries_iff (hv : pool.Valid) : (i, e) ∈ pool.entries ↔ pool.get i = .ok e := by
  induction hv with
  | empty => simp [entries_empty, get_empty]
  | push hv _ _ ih => simp [entries_push, get_push_ok_iff hv.size_le, ih]

lemma Valid.entries_increasing (hv : pool.Valid) :
    pool.entries.Pairwise fun a b => a.1 < b.1 := by
  induction hv with
  | empty => exact List.Pairwise.nil
  | @push pool entry hv _ _ ih =>
    rw [entries_push, List.pairwise_append]
    refine ⟨ih, List.pairwise_singleton .., ?_⟩
    intro (i, e) hi b hb
    obtain rfl := List.mem_singleton.mp hb
    have hle := (index_le_size (hv.mem_entries_iff.mp hi)).2
    rw [UInt16.lt_iff_toNat_lt, toNat_nextIndex hv.size_le]
    exact Nat.lt_succ_of_le hle

lemma Valid.blank_iff (hv : pool.Valid) {k : Nat} :
    pool.slots[k]? = some none ↔
      ∃ j e, k = j + 1 ∧ pool.slots[j]? = some (some e) ∧ e.isWide := by
  induction hv generalizing k with
  | empty => simp [Pool.empty]
  | @push pool entry _ _ _ ih =>
    -- an entry below the new one keeps its slot, and so does a blank that it needs
    have hold : ∀ j e, pool.slots[j]? = some (some e) → e.isWide → j + 1 < pool.size := by
      intro j e hj hw
      exact (Array.getElem?_eq_some_iff.mp (ih.mpr ⟨j, e, rfl, hj, hw⟩)).1
    rw [getElem?_push]
    constructor
    · intro hk
      split_ifs at hk with hlt heq hwide
      · obtain ⟨j, e, rfl, hj, hw⟩ := ih.mp hk
        exact ⟨j, e, rfl, by rw [getElem?_push, if_pos (by omega), hj], hw⟩
      · cases hk
      · refine ⟨pool.size, entry, hwide.1, ?_, hwide.2⟩
        rw [getElem?_push, if_neg (by omega), if_pos rfl]
    · rintro ⟨j, e, rfl, hj, hw⟩
      rw [getElem?_push] at hj
      split_ifs at hj with hlt heq hwide
      · have hb := ih.mpr ⟨j, e, rfl, hj, hw⟩
        rw [if_pos (hold j e hj hw), hb]
      · obtain rfl : entry = e := by simpa using hj
        rw [if_neg (by omega), if_neg (by omega), if_pos ⟨by omega, hw⟩]
      · cases hj

end ClassFile.Pool
