import ClassFile.Proofs.Pool.Runs

namespace ClassFile.Pool

/-- The indices in use are 1 to 65534, a slot is blank exactly behind a wide entry, entries are
found at their lowest index, text fits its length field, and the listing is complete. -/
structure Representation (pool : Pool) : Prop where
  size_le : pool.size ≤ 65534
  nextIndex : pool.nextIndex.toNat = pool.size + 1
  index_of_add : ∀ entry i pool', Intern.add entry pool = .ok i pool' →
    1 ≤ i.toNat ∧ i.toNat ≤ 65534
  index_of_entries : ∀ a ∈ pool.entries, 1 ≤ a.1.toNat ∧ a.1.toNat ≤ 65534
  blank_iff : ∀ k, pool.slots[k]? = some none ↔ ∃ j e, k = j + 1 ∧
    pool.slots[j]? = some (some e) ∧ (e.tag = .long ∨ e.tag = .double)
  last_narrow : ∀ e, pool.slots.back? = some (some e) → e.tag ≠ .long ∧ e.tag ≠ .double
  indexOf_ok_iff : ∀ e i, pool.indexOf e = .ok i ↔
    pool.get i = .ok e ∧ ∀ j, pool.get j = .ok e → i ≤ j
  indexOf_absent : ∀ e, (∀ i, pool.get i ≠ .ok e) → pool.indexOf e = .error (.unresolvedEntry e)
  text_fits : ∀ i text, pool.get i = .ok (.utf8 text) →
    (Text.ModifiedUtf8.encode text).length ≤ 65535
  raw_fits : ∀ i bytes, pool.get i = .ok (.rawUtf8 bytes) → bytes.length ≤ 65535 ∧
    Constant.ofModifiedUtf8 bytes = .ok (.rawUtf8 bytes)
  increasing : pool.entries.Pairwise fun a b => a.1 < b.1
  mem_entries_iff : ∀ i e, (i, e) ∈ pool.entries ↔ pool.get i = .ok e

variable {pool pool' : Pool} {e entry : Constant} {i : UInt16}

lemma isWide_iff : e.isWide ↔ e.tag = .long ∨ e.tag = .double := by
  cases e <;> simp [Constant.isWide, Constant.tag]

lemma Valid.index_bounds (hv : pool.Valid) (h : pool.get i = .ok e) :
    1 ≤ i.toNat ∧ i.toNat ≤ 65534 := by
  obtain ⟨hpos, hle⟩ := index_le_size h
  exact ⟨hpos, Nat.le_trans hle hv.size_le⟩

lemma Valid.of_add (hv : pool.Valid) (h : Intern.add entry pool = .ok i pool') : pool'.Valid :=
  hv.extends ((Intern.add_walks entry).of_ok h)

lemma Valid.index_of_add (hv : pool.Valid) (h : Intern.add entry pool = .ok i pool') :
    1 ≤ i.toNat ∧ i.toNat ≤ 65534 := by
  have hv' := hv.of_add h
  obtain ⟨e, _, hf⟩ := Intern.find?_of_add h
  exact hv'.index_bounds (hv'.find?_eq_some_iff.mp hf).holds

lemma Valid.last_narrow (hv : pool.Valid) (h : pool.slots.back? = some (some e)) :
    ¬ e.isWide := by
  intro hw
  rw [Array.back?_eq_getElem?] at h
  have hsize : 0 < pool.slots.size := by
    have hlt := (Array.getElem?_eq_some_iff.mp h).1
    omega
  have hb := hv.blank_iff.mpr ⟨_, e, rfl, h, hw⟩
  have hlt := (Array.getElem?_eq_some_iff.mp hb).1
  omega

lemma Valid.indexOf_absent (hv : pool.Valid) (h : ∀ i, pool.get i ≠ .ok e) :
    pool.indexOf e = .error (.unresolvedEntry e) := by
  rw [indexOf, hv.find?_eq_none_iff.mpr h]

lemma Valid.indexOf_ok_iff (hv : pool.Valid) :
    pool.indexOf e = .ok i ↔ pool.get i = .ok e ∧ ∀ j, pool.get j = .ok e → i ≤ j := by
  rw [Pool.indexOf_ok_iff, hv.find?_eq_some_iff]
  exact ⟨fun h => ⟨h.holds, h.le⟩, fun h => ⟨h.1, h.2⟩⟩

theorem representation_of_reachable (hr : pool.Reachable) : pool.Representation := by
  have hv := hr.valid
  constructor
  case size_le => exact hv.size_le
  case nextIndex => exact toNat_nextIndex hv.size_le
  case index_of_add => exact fun entry i pool' h => hv.index_of_add h
  case index_of_entries => exact fun a ha => hv.index_bounds (hv.mem_entries_iff.mp ha)
  case blank_iff => simpa only [isWide_iff] using fun k => hv.blank_iff
  case last_narrow =>
    intro e he
    have hn := hv.last_narrow he
    rwa [isWide_iff, not_or] at hn
  case indexOf_ok_iff => exact fun e i => hv.indexOf_ok_iff
  case indexOf_absent => exact fun e h => hv.indexOf_absent h
  case text_fits => exact fun i text h => hv.storable_of_get h
  case raw_fits => exact fun i bytes h => hv.storable_of_get h
  case increasing => exact hv.entries_increasing
  case mem_entries_iff => exact fun i e => hv.mem_entries_iff

def sampleRun : List Call :=
  [.addText "()V", .add (.long 7), .add (.rawUtf8 [0xFF]), .add (.rawUtf8 [0xED, 0xA0, 0x80]),
    .resolve ⟨"main", "()V", .onlyPublic, [⟨"Code", [0xB1]⟩]⟩]

theorem representation_of_sampleRun :
    (empty.afterAll sampleRun).Reachable ∧ (empty.afterAll sampleRun).Representation := by
  have hr : (empty.afterAll sampleRun).Reachable := Reachable.empty.afterAll sampleRun
  exact ⟨hr, representation_of_reachable hr⟩

theorem write_read_of_reachable (hr : pool.Reachable) :
    ∃ bytes, pool.write.Appends bytes ∧
      ∀ rest, read (.ofBytes (bytes ++ rest)) = .ok pool ⟨bytes.length, rest⟩ := by
  have hv := hr.valid
  refine ⟨pool.form, hv.write_appends, fun rest => read_ok_iff.mpr ⟨hv, rfl, ?_⟩⟩
  exact (Nat.zero_add _).symm

lemma Valid.reachable (hv : pool.Valid) : pool.Reachable := by
  have hspans : (Cursor.ofBytes pool.form).Spans pool.form ⟨0 + pool.form.length, []⟩ :=
    ⟨(List.append_nil _).symm, rfl⟩
  exact .read (read_ok_iff.mpr ⟨hv, hspans⟩)

/-- A pool that holds one string at two indices, as only reading can build it. -/
def doubled : Pool := (empty.push (.utf8 "a")).push (.utf8 "a")

lemma doubled_reachable : doubled.Reachable := by
  have hst : (Constant.utf8 "a").Storable := by
    rw [Constant.Storable, Text.ModifiedUtf8.encode_length]
    decide
  have hv : doubled.Valid := .push (.push .empty hst (by decide)) hst (by decide)
  exact hv.reachable

theorem write_read_doubled :
    doubled.Reachable ∧ ∃ bytes, doubled.write.Appends bytes ∧
      ∀ rest, read (.ofBytes (bytes ++ rest)) = .ok doubled ⟨bytes.length, rest⟩ :=
  ⟨doubled_reachable, write_read_of_reachable doubled_reachable⟩

end ClassFile.Pool
