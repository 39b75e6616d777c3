import ClassFile.Pool.Codec
import ClassFile.Proofs.Pool.Lookup

namespace ClassFile.Pool

open BigEndian

def pushAll (pool : Pool) (entries : List Constant) : Pool := entries.foldl push pool

def contents (pool : Pool) : List Constant := pool.entries.map Prod.snd

def form (pool : Pool) : List UInt8 :=
  toBytes 2 (pool.size + 1) ++ pool.contents.flatMap Constant.form

variable {pool pool' : Pool} {c d : Cursor} {count : UInt16}

lemma pushAll_concat (pool : Pool) (entries : List Constant) (entry : Constant) :
    pool.pushAll (entries ++ [entry]) = (pool.pushAll entries).push entry :=
  List.foldl_append

lemma contents_push (pool : Pool) (entry : Constant) :
    (pool.push entry).contents = pool.contents ++ [entry] := by
  simp [contents, entries_push]

lemma size_le_pushAll (pool : Pool) (entries : List Constant) :
    pool.size ≤ (pool.pushAll entries).size := by
  induction entries generalizing pool with
  | nil => exact Nat.le_refl _
  | cons e entries ih =>
    have h := ih (pool.push e)
    rw [size_push] at h
    exact Nat.le_trans (Nat.le_add_right ..) h

lemma Valid.eq_pushAll (hv : pool.Valid) : pool = Pool.empty.pushAll pool.contents := by
  induction hv with
  | empty => rfl
  | @push pool entry _ _ _ ih =>
    rw [contents_push, pushAll_concat, ← ih]

lemma Valid.storable (hv : pool.Valid) : ∀ e ∈ pool.contents, e.Storable := by
  intro e he
  obtain ⟨⟨i, _⟩, hi, rfl⟩ := List.mem_map.mp he
  exact hv.storable_of_get (hv.mem_entries_iff.mp hi)

lemma readEntries_sound (hv : pool.Valid) (hc : pool.size + 1 ≤ count.toNat)
    (h : readEntries count pool c = .ok pool' d) :
    pool'.Valid ∧ pool'.size + 1 = count.toNat ∧
      ∃ added, pool'.contents = pool.contents ++ added ∧
        c.Spans (added.flatMap Constant.form) d := by
  induction pool using readEntries.induct count generalizing c with
  | case1 pool hlt ih =>
    rw [readEntries, if_pos hlt] at h
    obtain ⟨entry, m, hr, h⟩ := Step.bind_eq_ok_iff.mp h
    obtain ⟨hfit, h⟩ := Step.refuse_eq_ok_iff.mp h
    obtain ⟨hst, hs⟩ := Constant.read_ok_iff.mp hr
    have hn := count.toNat_lt
    have hpush : (pool.push entry).Valid := .push hv hst (by rw [maxIndex]; omega)
    obtain ⟨hv', hsize, added, hadded, hs'⟩ := ih entry hfit hpush (by rw [size_push]; omega) h
    refine ⟨hv', hsize, entry :: added, ?_, Cursor.spans_append_of hs hs'⟩
    rw [hadded, contents_push, List.append_assoc, List.singleton_append]
  | case2 pool hge =>
    rw [readEntries, if_neg hge] at h
    obtain ⟨rfl, rfl⟩ := Step.pure_eq_ok_iff.mp h
    exact ⟨hv, by omega, [], (List.append_nil _).symm, Cursor.spans_nil.mpr rfl⟩

lemma readEntries_complete {added : List Constant} (hst : ∀ e ∈ added, e.Storable)
    (hsize : (pool.pushAll added).size + 1 = count.toNat)
    (hs : c.Spans (added.flatMap Constant.form) d) :
    readEntries count pool c = .ok (pool.pushAll added) d := by
  induction added generalizing pool c with
  | nil =>
    have hge : ¬ pool.size + 1 < count.toNat := by
      rw [← hsize]
      exact Nat.lt_irrefl _
    rw [readEntries, if_neg hge]
    exact Step.pure_eq_ok_iff.mpr ⟨rfl, Cursor.spans_nil.mp hs⟩
  | cons entry added ih =>
    obtain ⟨m, hm, hs⟩ := Cursor.spans_append.mp hs
    have hle := size_le_pushAll (pool.push entry) added
    have hpos := entry.slots_pos
    change ((pool.push entry).pushAll added).size + 1 = count.toNat at hsize
    rw [size_push] at hle
    rw [readEntries, if_pos (by omega)]
    refine Step.bind_eq_ok_iff.mpr ⟨entry, m, Constant.read_ok_iff.mpr ⟨hst entry (by simp), hm⟩, ?_⟩
    exact Step.refuse_eq_ok_iff.mpr
      ⟨by omega, ih (fun e he => hst e (by simp [he])) hsize hs⟩

theorem read_ok_iff : read c = .ok pool d ↔ pool.Valid ∧ c.Spans pool.form d := by
  simp only [read, Step.bind_eq_ok_iff, Read.u2_ok_iff, Step.check_eq_ok_iff, form,
    Cursor.spans_append]
  constructor
  · rintro ⟨count, m, hm, hne, h⟩
    have hpos : 0 < count.toNat := Nat.pos_of_ne_zero fun h => hne (UInt16.toNat_inj.mp h)
    obtain ⟨hv, hsize, added, hadded, hs⟩ := readEntries_sound .empty hpos h
    rw [hsize, hadded]
    exact ⟨hv, m, hm, hs⟩
  · rintro ⟨hv, m, hm, hs⟩
    have hn := toNat_nextIndex hv.size_le
    refine ⟨pool.nextIndex, m, by rwa [hn], fun h0 => ?_, ?_⟩
    · rw [h0] at hn
      cases hn
    · have heq := hv.eq_pushAll
      have hsize : (empty.pushAll pool.contents).size + 1 = pool.nextIndex.toNat := by
        rw [← heq, hn]
      have hr := readEntries_complete hv.storable hsize hs
      rwa [← heq] at hr

theorem Valid.write_appends (hv : pool.Valid) : pool.write.Appends pool.form := by
  have hn : pool.size + 1 < 65536 := Nat.lt_succ_of_le (Nat.succ_le_succ hv.size_le)
  have hform : pool.contents.flatMap Constant.form = pool.entries.flatMap fun a => a.2.form := by
    rw [contents, List.flatMap_map]
  rw [write, form, hform]
  refine (Write.u2_appends hn).then (Write.forM_appends fun a ha => ?_)
  exact Constant.write_appends (hv.storable _ (List.mem_map_of_mem ha))

end ClassFile.Pool
