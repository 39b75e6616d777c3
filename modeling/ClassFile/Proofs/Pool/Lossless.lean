import ClassFile.Proofs.Constant.Text
import ClassFile.Proofs.Pool.Form

namespace ClassFile

lemma Cursor.Spans.take_pos {data bytes : List UInt8} {d : Cursor}
    (h : (Cursor.ofBytes data).Spans bytes d) : data.take d.pos = bytes := by
  obtain ⟨hrest, hpos⟩ := h
  have hlen : d.pos = bytes.length := hpos.trans (Nat.zero_add _)
  rw [hlen]
  exact (congrArg (List.take _) hrest).trans List.take_left

namespace Pool

open BigEndian

variable {pool pool' : Pool} {d : Cursor} {data : List UInt8}

lemma form_congr (h : pool'.slots = pool.slots) : pool'.form = pool.form := by
  simp only [form, size, contents, entries, entriesFrom, h]

lemma Valid.ofBytes_take_two (hv : pool.Valid) (rest : List UInt8) :
    ofBytes ((pool.form ++ rest).take 2) = pool.size + 1 := by
  have hn : pool.size + 1 < 256 ^ 2 := Nat.lt_succ_of_le (Nat.succ_le_succ hv.size_le)
  rw [form, List.append_assoc, List.take_left' (toBytes_length ..), ofBytes_toBytes_of_lt hn]

lemma Valid.pushAll (hv : pool.Valid) {entries : List Constant} (hst : ∀ e ∈ entries, e.Storable)
    (hfit : (pool.pushAll entries).size ≤ maxIndex) : (pool.pushAll entries).Valid := by
  induction entries generalizing pool with
  | nil => exact hv
  | cons e entries ih =>
    rw [List.forall_mem_cons] at hst
    have hle := size_le_pushAll (pool.push e) entries
    rw [size_push] at hle
    exact ih (.push hv hst.1 (hle.trans hfit)) hst.2 hfit

theorem write_of_read (h : read (.ofBytes data) = .ok pool d) :
    pool.write #[] = .ok () (data.take d.pos).toArray ∧
    ofBytes (data.take 2) = pool.size + 1 ∧
    ∀ data' pool' d', read (.ofBytes data') = .ok pool' d' → pool'.slots = pool.slots →
      data'.take d'.pos = data.take d.pos := by
  obtain ⟨hv, hs⟩ := read_ok_iff.mp h
  refine ⟨?_, ?_, fun data' pool' d' h' hslots => ?_⟩
  · rw [hv.write_appends, hs.take_pos]
    simp
  · have hdata : data = pool.form ++ d.rest := hs.1
    rw [hdata, hv.ofBytes_take_two]
  · obtain ⟨_, hs'⟩ := read_ok_iff.mp h'
    rw [hs'.take_pos, hs.take_pos, form_congr hslots]

def irregular : List Constant :=
  [.utf8 "a", .double 0x7FF0000000000001, .utf8 "a", .utf8 "😀", .rawUtf8 [0xED, 0xA0, 0x80],
    .classRef 4]

def irregularBytes : List UInt8 :=
  [0, 8, 1, 0, 1, 0x61, 6, 0x7F, 0xF0, 0, 0, 0, 0, 0, 1, 1, 0, 1, 0x61,
    1, 0, 6, 0xED, 0xA0, 0xBD, 0xED, 0xB8, 0x80, 1, 0, 3, 0xED, 0xA0, 0x80, 7, 0, 4]

lemma storable_irregular : ∀ e ∈ irregular, e.Storable := by
  have htext : ∀ text ∈ ["a", "😀"], (Constant.utf8 text).Storable := by
    intro text _
    rw [Constant.Storable, Text.ModifiedUtf8.encode_length]
    decide +revert
  have hlone : Text.Utf16.HasUnpaired [0xD800] :=
    Text.Utf16.hasUnpaired_of_high (by decide) (by simp)
  have hraw : (Constant.rawUtf8 [0xED, 0xA0, 0x80]).Storable :=
    ⟨by decide, Constant.ofModifiedUtf8_eq_raw_iff.mpr ⟨_, hlone, rfl⟩⟩
  simp only [irregular, List.forall_mem_cons]
  exact ⟨htext "a" (by simp), trivial, htext "a" (by simp), htext "😀" (by simp), hraw, trivial,
    nofun⟩

lemma read_irregular :
    read (.ofBytes (irregularBytes ++ [0xFF])) = .ok (empty.pushAll irregular) ⟨37, [0xFF]⟩ := by
  have hv : (empty.pushAll irregular).Valid := .pushAll .empty storable_irregular (by decide)
  have hform : (empty.pushAll irregular).form = irregularBytes := by decide
  exact read_ok_iff.mpr ⟨hv, by rw [hform]; rfl, rfl⟩

theorem write_of_read_irregular :
    read (.ofBytes (irregularBytes ++ [0xFF])) = .ok (empty.pushAll irregular) ⟨37, [0xFF]⟩ ∧
    (empty.pushAll irregular).write #[] = .ok () irregularBytes.toArray ∧
    ofBytes ((irregularBytes ++ [0xFF]).take 2) = (empty.pushAll irregular).size + 1 ∧
    ∀ data' pool' d', read (.ofBytes data') = .ok pool' d' →
      pool'.slots = (empty.pushAll irregular).slots → data'.take d'.pos = irregularBytes :=
  ⟨read_irregular, write_of_read read_irregular⟩

end Pool

end ClassFile
