import ClassFile.Proofs.Constant.Text
import ClassFile.Proofs.Pool.Representation

namespace ClassFile

open Text.ModifiedUtf8

namespace Constant

def Encodable : Constant → Prop
  | utf8 text => (encode text).length ≤ maxTextLength
  | rawUtf8 bytes =>
    bytes.length ≤ maxTextLength ∧ ∃ units : List UInt16, bytes = units.flatMap encodeUnit
  | _ => True

variable {entry e : Constant} {bytes : List UInt8} {fault : Error}

lemma payloadLength_of_ofModifiedUtf8 (h : ofModifiedUtf8 bytes = .ok e) :
    e.payloadLength = bytes.length := by
  rcases ofModifiedUtf8_cases h with ⟨text, rfl, rfl⟩ | rfl
  · exact (encode_length text).symm
  · rfl

lemma slots_of_canonical (h : entry.canonical = .ok e) : e.slots = entry.slots := by
  rcases canonical_cases h with ⟨text, rfl, rfl⟩ | rfl <;> rfl

lemma encodable_iff_of_canonical (h : entry.canonical = .ok e) :
    entry.Encodable ↔ e.payloadLength ≤ maxTextLength := by
  cases entry with
  | utf8 text =>
    cases h
    rw [Encodable, encode_length]
    rfl
  | rawUtf8 bytes =>
    rw [Encodable, payloadLength_of_ofModifiedUtf8 h]
    exact and_iff_left (exists_units_of_ofModifiedUtf8 h)
  | _ =>
    cases h
    exact iff_of_true trivial (Nat.zero_le _)

lemma not_encodable_of_canonical (h : entry.canonical = .error fault) :
    ¬ entry.Encodable ∧ fault ≠ .poolOverflow := by
  cases entry with
  | rawUtf8 bytes =>
    obtain ⟨f, rfl⟩ := malformed_of_ofModifiedUtf8 h
    have hnone := ofModifiedUtf8_eq_error_iff.mp ⟨f, h⟩
    exact ⟨fun ⟨_, units, hu⟩ => hnone units hu, nofun⟩
  | _ => cases h

lemma canonical_of_encodable (h : entry.Encodable) : ∃ e, entry.canonical = .ok e := by
  cases hc : entry.canonical with
  | error fault => exact absurd h (not_encodable_of_canonical hc).1
  | ok e => exact ⟨e, rfl⟩

end Constant

namespace Pool

def addAll (pool : Pool) (entries : List Constant) : Pool := pool.afterAll (entries.map .add)

variable {pool pool' pool'' : Pool} {entry entry' e : Constant} {i j : UInt16}

lemma extends_addAll (pool : Pool) (entries : List Constant) :
    Extends pool (pool.addAll entries) :=
  extends_afterAll pool _

lemma Valid.addAll (hv : pool.Valid) (entries : List Constant) : (pool.addAll entries).Valid :=
  hv.extends (extends_addAll pool entries)

lemma get_extends (h : Extends pool pool') (hi : pool.get i = .ok e) : pool'.get i = .ok e := by
  induction h with
  | refl => exact hi
  | tail _ hg ih =>
    cases hg with
    | push _ _ hfit =>
      have hsize := Nat.le_trans (Nat.le_add_right _ _) hfit
      exact (get_push_ok_iff hsize).mpr (Or.inl ih)

/-- From `pool` on: which answers last, which index an entry gets, and which calls succeed. -/
structure Interns (pool : Pool) : Prop where
  get : ∀ i e, pool.get i = .ok e → ∀ later, (pool.addAll later).get i = .ok e
  textAt : ∀ i text, pool.textAt i = .ok text → ∀ later, (pool.addAll later).textAt i = .ok text
  indexOf : ∀ e i, pool.indexOf e = .ok i → ∀ later, (pool.addAll later).indexOf e = .ok i
  indexOfText : ∀ text i, pool.indexOfText text = .ok i →
    ∀ later, (pool.addAll later).indexOfText text = .ok i
  added : ∀ entry i pool', Intern.add entry pool = .ok i pool' →
    ∃ e, entry.canonical = .ok e ∧ ∀ later, (pool'.addAll later).get i = .ok e
  same_index_iff : ∀ entry i pool' later entry' j pool'', Intern.add entry pool = .ok i pool' →
    Intern.add entry' (pool'.addAll later) = .ok j pool'' →
      (i = j ↔ entry.canonical = entry'.canonical)
  failed : ∀ entry fault pool', Intern.add entry pool = .error fault pool' → pool' = pool
  present : ∀ entry e i, entry.canonical = .ok e → pool.get i = .ok e →
    ∃ j, Intern.add entry pool = .ok j pool
  interned : ∀ entry, entry.Encodable → pool.size + entry.slots ≤ 65534 →
    ∃ e, entry.canonical = .ok e ∧ ((∀ i, pool.get i ≠ .ok e) →
      Intern.add entry pool = .ok pool.nextIndex (pool.push e))
  overflow_iff : ∀ entry, (∀ e i, entry.canonical = .ok e → pool.get i ≠ .ok e) →
    ((∃ pool', Intern.add entry pool = .error .poolOverflow pool') ↔
      entry.Encodable ∧ pool.size + entry.slots > 65534)

lemma Valid.lowest_of_add (hv : pool.Valid) (h : Intern.add entry pool = .ok i pool') :
    ∃ e, entry.canonical = .ok e ∧ pool'.Lowest e i := by
  obtain ⟨e, hc, hf⟩ := Intern.find?_of_add h
  exact ⟨e, hc, (hv.of_add h).find?_eq_some_iff.mp hf⟩

lemma Valid.same_index_iff (hv : pool.Valid) {later : List Constant}
    (h : Intern.add entry pool = .ok i pool')
    (h' : Intern.add entry' (pool'.addAll later) = .ok j pool'') :
    i = j ↔ entry.canonical = entry'.canonical := by
  obtain ⟨e, hc, hl⟩ := hv.lowest_of_add h
  obtain ⟨e', hc', hl'⟩ := ((hv.of_add h).addAll later).lowest_of_add h'
  have hext := (extends_addAll pool' later).trans ((Intern.add_walks entry').of_ok h')
  have hv'' := (hv.of_add h).extends hext
  have hi : pool''.Lowest e i :=
    hv''.find?_eq_some_iff.mp (find?_extends hext ((hv.of_add h).find?_eq_some_iff.mpr hl))
  rw [hc, hc', Except.ok.injEq]
  constructor
  · rintro rfl
    exact Except.ok.inj (hi.holds.symm.trans hl'.holds)
  · rintro rfl
    exact hi.unique hl'

end Pool

namespace Intern

variable {pool pool' : Pool} {entry e : Constant} {i : UInt16} {fault : Error}

lemma unchanged_of_error (h : add entry pool = .error fault pool') : pool' = pool := by
  cases hc : entry.canonical with
  | error f =>
    rw [add_of_error hc] at h
    cases h
    rfl
  | ok e =>
    cases hf : pool.find? e with
    | some i =>
      rw [add_of_present hc hf] at h
      cases h
    | none =>
      rw [add_of_absent hc hf] at h
      split_ifs at h <;> cases h <;> rfl

lemma add_of_new (hv : pool.Valid) (hc : entry.canonical = .ok e) (henc : entry.Encodable)
    (hfit : pool.size + entry.slots ≤ Pool.maxIndex) (hnew : ∀ i, pool.get i ≠ .ok e) :
    add entry pool = .ok pool.nextIndex (pool.push e) := by
  have hf := hv.find?_eq_none_iff.mpr hnew
  have hlen := (Constant.encodable_iff_of_canonical hc).mp henc
  rw [← Constant.slots_of_canonical hc] at hfit
  rw [add_of_absent hc hf, if_neg (Nat.not_lt.mpr hlen), if_neg (Nat.not_lt.mpr hfit)]

lemma overflow_iff (hv : pool.Valid)
    (hnew : ∀ e i, entry.canonical = .ok e → pool.get i ≠ .ok e) :
    (∃ pool', add entry pool = .error .poolOverflow pool') ↔
      entry.Encodable ∧ pool.size + entry.slots > Pool.maxIndex := by
  cases hc : entry.canonical with
  | error f =>
    obtain ⟨hn, hf⟩ := Constant.not_encodable_of_canonical hc
    simp [add_of_error hc, hn, hf]
  | ok e =>
    have hf := hv.find?_eq_none_iff.mpr fun i => hnew e i hc
    rw [add_of_absent hc hf, Constant.encodable_iff_of_canonical hc,
      ← Constant.slots_of_canonical hc]
    by_cases hlen : e.payloadLength > Constant.maxTextLength
    · simp [hlen]
    by_cases hfit : pool.size + e.slots > Pool.maxIndex
    · simp [hlen, hfit, Nat.not_lt.mp hlen]
    · simp [hlen, hfit]

end Intern

namespace Pool

variable {start : Pool}

theorem interns_of_reachable (hr : start.Reachable) (before : List Constant) :
    (start.addAll before).Interns := by
  have hv := hr.valid.addAll before
  constructor
  case get => exact fun i e h later => get_extends (extends_addAll _ later) h
  case textAt =>
    intro i text h later
    exact textAt_ok_iff.mpr (get_extends (extends_addAll _ later) (textAt_ok_iff.mp h))
  case indexOf =>
    intro e i h later
    exact indexOf_ok_iff.mpr (find?_extends (extends_addAll _ later) (indexOf_ok_iff.mp h))
  case indexOfText =>
    intro text i h later
    exact indexOfText_ok_iff.mpr (find?_extends (extends_addAll _ later) (indexOfText_ok_iff.mp h))
  case added =>
    intro entry i pool' h
    obtain ⟨e, hc, hl⟩ := hv.lowest_of_add h
    exact ⟨e, hc, fun later => get_extends (extends_addAll pool' later) hl.holds⟩
  case same_index_iff => exact fun _ _ _ _ _ _ _ h h' => hv.same_index_iff h h'
  case failed => exact fun _ _ _ h => Intern.unchanged_of_error h
  case present =>
    intro entry e i hc hi
    obtain ⟨j, hj⟩ := exists_lowest hi
    exact ⟨j, Intern.add_of_present hc (hv.find?_eq_some_iff.mpr hj)⟩
  case interned =>
    intro entry henc hfit
    obtain ⟨e, hc⟩ := Constant.canonical_of_encodable henc
    exact ⟨e, hc, Intern.add_of_new hv hc henc hfit⟩
  case overflow_iff => exact fun _ hnew => Intern.overflow_iff hv hnew

def mixed : List Constant :=
  [.rawUtf8 [0x61], .long 7, .rawUtf8 [0xFF], .rawUtf8 [0xED, 0xA0, 0x80]]

theorem interns_doubled : doubled.Reachable ∧ (doubled.addAll mixed).Interns :=
  ⟨doubled_reachable, interns_of_reachable doubled_reachable _⟩

end Pool

end ClassFile
