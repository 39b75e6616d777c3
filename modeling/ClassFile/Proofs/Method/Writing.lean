import ClassFile.Proofs.Fragment.RoundTrip
import ClassFile.Proofs.Layout
import ClassFile.Proofs.Pool.Representation
import ClassFile.Proofs.Step.Fault

/-! Writing a method field by field, up to the first string that the pool lacks. -/

namespace ClassFile

open BigEndian

variable {pool pool' : Pool} {ref : String} {out out' : Output} {e : Error}

lemma Pool.Knows.indexFor_extends (hk : pool.Knows ref) (h : pool.Extends pool') :
    pool'.indexFor ref = pool.indexFor ref := by
  obtain ⟨i, hi⟩ := hk
  rw [indexFor, indexFor, hi, find?_extends h hi]

namespace Field

def form (pool : Pool) (field : Field String) : List UInt8 := (field.map pool.indexFor).bytes

def write (pool : Pool) : Field String → Write Unit
  | text ref => Write.text pool ref
  | plain bytes => Write.bytes bytes

variable {field : Field String} {fields : List (Field String)}

lemma text_write (pool : Pool) (ref : String) (out : Output) :
    (Field.text ref).write pool out = match pool.find? (.utf8 ref) with
      | some i => .ok () (out ++ toBytes 2 i.toNat)
      | none => .error (.unresolvedText ref) out := by
  rw [write, Write.text, Step.ofExcept_bind, Pool.indexOfText]
  cases pool.find? (.utf8 ref) <;> rfl

lemma write_appends (hk : ∀ ref, field = text ref → pool.Knows ref) :
    (field.write pool).Appends (field.form pool) := by
  cases field with
  | text ref =>
    intro out
    obtain ⟨i, hi⟩ := hk ref rfl
    rw [text_write, hi, form, map, Pool.indexFor, hi]
    rfl
  | plain bytes => exact Write.bytes_appends bytes

lemma knows_of_write (h : (Field.text ref).write pool out = .ok () out') : pool.Knows ref := by
  rw [text_write] at h
  cases hf : pool.find? (.utf8 ref) with
  | some i => exact ⟨i, hf⟩
  | none => simp [hf] at h

lemma write_error (h : field.write pool out = .error e out') :
    ∃ ref, field = text ref ∧ ¬ pool.Knows ref ∧ e = .unresolvedText ref ∧ out' = out := by
  cases field with
  | text ref =>
    rw [text_write] at h
    cases hf : pool.find? (.utf8 ref) with
    | some i => simp [hf] at h
    | none =>
      rw [hf] at h
      cases h
      exact ⟨ref, rfl, by simp [Pool.Knows, hf], rfl, rfl⟩
  | plain bytes => cases h

lemma writeAll_appends (hk : ∀ ref, text ref ∈ fields → pool.Knows ref) :
    (fields.forM (write pool)).Appends (fields.flatMap (form pool)) := by
  apply Write.forM_appends
  intro field hf
  apply write_appends
  rintro ref rfl
  exact hk ref hf

lemma writeAll_ok_iff :
    fields.forM (write pool) out = .ok () out' ↔
      (∀ ref, text ref ∈ fields → pool.Knows ref) ∧ out' = out ++ fields.flatMap (form pool) := by
  constructor
  · intro h
    have hk : ∀ ref, text ref ∈ fields → pool.Knows ref := by
      intro ref hr
      obtain ⟨_, _, hw⟩ := Step.ok_of_mem_of_forM h hr
      exact knows_of_write hw
    rw [writeAll_appends hk] at h
    cases h
    exact ⟨hk, rfl⟩
  · rintro ⟨hk, rfl⟩
    exact writeAll_appends hk out

lemma writeAll_error (h : fields.forM (write pool) out = .error e out') :
    ∃ (before : List (Field String)) (ref : String) (after : List (Field String)),
      fields = before ++ text ref :: after ∧ (∀ s, text s ∈ before → pool.Knows s) ∧
      ¬ pool.Knows ref ∧ e = .unresolvedText ref ∧ out' = out ++ before.flatMap (form pool) := by
  obtain ⟨before, field, after, u, rfl, hb, hf⟩ := Step.forM_eq_error_iff.mp h
  obtain ⟨ref, rfl, hr, rfl, rfl⟩ := write_error hf
  obtain ⟨hk, rfl⟩ := writeAll_ok_iff.mp hb
  exact ⟨before, ref, after, rfl, hk, hr, rfl, rfl⟩

lemma form_extends (hk : ∀ ref, text ref ∈ fields → pool.Knows ref) (h : pool.Extends pool') :
    fields.flatMap (form pool') = fields.flatMap (form pool) := by
  apply List.flatMap_congr
  intro field hf
  cases field with
  | text ref => rw [form, form, map, map, (hk ref hf).indexFor_extends h]
  | plain bytes => rfl

end Field

lemma Attribute.write_eq {a : Attribute} (h : a.info.length < 2 ^ 32) :
    Attribute.write pool a = a.fields.forM (Field.write pool) := by
  have hn : (UInt32.ofNat a.info.length).toNat = a.info.length := UInt32.toNat_ofNat_of_lt' h
  have hle : ¬ a.info.length > maxLength := Nat.not_lt.mpr (Nat.le_of_lt_succ h)
  rw [write, if_neg hle, Write.u4, hn]
  rfl

lemma Attribute.writeAll_eq {attributes : List Attribute}
    (h : ∀ a ∈ attributes, a.info.length < 2 ^ 32) :
    attributes.forM (Attribute.write pool) =
      (attributes.map fields).flatten.forM (Field.write pool) := by
  rw [← List.flatMap_def, Step.forM_flatMap]
  induction attributes with
  | nil => rfl
  | cons a attributes ih =>
    rw [List.forall_mem_cons] at h
    rw [List.forM_eq_forM, List.forM_cons, ← List.forM_eq_forM, write_eq h.1, ih h.2]
    rfl

namespace Method

variable {m : Method}

lemma write_eq (hf : m.Fits) : write pool m = m.fields.forM (Field.write pool) := by
  have hn : (UInt16.ofNat m.attributes.length).toNat = m.attributes.length :=
    UInt16.toNat_ofNat_of_lt' (Nat.lt_succ_of_le hf.count)
  have hle : ¬ m.attributes.length > maxAttributes := Nat.not_lt.mpr hf.count
  rw [write, if_neg hle, Write.u2, Write.u2, hn, Attribute.writeAll_eq hf.lengths, fields,
    Field.ofMethod, List.length_map]
  rfl

lemma text_mem_fields_iff : .text ref ∈ m.fields ↔ ref ∈ m.texts := by
  have has : .text ref ∈ (m.attributes.map Attribute.fields).flatten ↔
      ∃ a ∈ m.attributes, a.name = ref := by
    simp [Attribute.fields, Field.ofAttribute, eq_comm]
  rw [fields, Field.ofMethod, List.mem_append, has]
  simp [texts, or_assoc]

lemma write_refused (h : 65535 < m.attributes.length) :
    write pool m out = .error (.malformed (.tooManyAttributes m.name m.attributes.length)) out := by
  have hgt : m.attributes.length > maxAttributes := h
  rw [write, if_pos hgt]
  rfl

lemma count_of_write (h : write pool m out = .ok () out') : m.attributes.length ≤ 65535 := by
  by_contra hn
  simp [write_refused (Nat.not_le.mp hn)] at h

lemma write_ok_iff (hf : m.Fits) :
    write pool m out = .ok () out' ↔
      (∀ text ∈ m.texts, pool.Knows text) ∧ out' = out ++ m.fields.flatMap (Field.form pool) := by
  rw [write_eq hf, Field.writeAll_ok_iff]
  simp only [text_mem_fields_iff]

lemma write_extends (hf : m.Fits) (h : write pool m out = .ok () out')
    (hext : pool.Extends pool') : write pool' m out = .ok () out' := by
  rw [write_eq hf] at h ⊢
  obtain ⟨hk, rfl⟩ := Field.writeAll_ok_iff.mp h
  apply Field.writeAll_ok_iff.mpr
  exact ⟨fun s hs => (hk s hs).extends hext, by rw [Field.form_extends hk hext]⟩

/-- What writing `m` behind `out` comes to with `pool`, and with `grown`, which holds more. -/
structure Writes (pool grown : Pool) (m : Method) (out : Output) : Prop where
  ok_iff : (∃ out', write pool m out = .ok () out') ↔
    m.attributes.length ≤ 65535 ∧ ∀ text ∈ m.texts, pool.Holds text
  kept : ∀ out', write pool m out = .ok () out' →
    ∃ bytes : List UInt8, out' = out ++ bytes ∧ write grown m out = .ok () (out ++ bytes)
  refused : 65535 < m.attributes.length →
    write pool m out = .error (.malformed (.tooManyAttributes m.name m.attributes.length)) out
  stopped : m.attributes.length ≤ 65535 → ∀ e out', write pool m out = .error e out' →
    ∃ before text after, m.fields = before ++ .text text :: after ∧
      (∀ s, .text s ∈ before → pool.Holds s) ∧ ¬ pool.Holds text ∧ e = .unresolvedText text ∧
      out' = out ++ (before.flatMap (Field.form pool) : List UInt8) ∧
      ∀ out'', write grown m out = .ok () out'' →
        ∃ more : List UInt8, more ≠ [] ∧ out'' = out' ++ more

lemma stopped_of_write (hf : m.Fits) (hext : pool.Extends pool')
    (h : write pool m out = .error e out') :
    ∃ before text after, m.fields = before ++ .text text :: after ∧
      (∀ s, .text s ∈ before → pool.Knows s) ∧ ¬ pool.Knows text ∧ e = .unresolvedText text ∧
      out' = out ++ (before.flatMap (Field.form pool) : List UInt8) ∧
      ∀ out'', write pool' m out = .ok () out'' →
        ∃ more : List UInt8, more ≠ [] ∧ out'' = out' ++ more := by
  rw [write_eq hf] at h
  obtain ⟨before, text, after, hfields, hk, htext, rfl, rfl⟩ := Field.writeAll_error h
  refine ⟨before, text, after, hfields, hk, htext, rfl, rfl, ?_⟩
  intro out'' h'
  -- the fields before the missing string come out as they did, its index and the rest follow
  obtain ⟨-, rfl⟩ := (write_ok_iff hf).mp h'
  refine ⟨(Field.text text :: after).flatMap (Field.form pool'), ?_, ?_⟩
  · simp [Field.form, Field.map, Field.bytes, toBytes]
  · rw [hfields, List.flatMap_append, Field.form_extends hk hext, append_append_list]

theorem writes_of_reachable (hr : pool.Reachable) (calls : List Pool.Call)
    (hlen : ∀ a ∈ m.attributes, a.info.length < 2 ^ 32) (out : Output) :
    Writes pool (pool.afterAll calls) m out := by
  have hext := Pool.extends_afterAll pool calls
  have hholds : ∀ text, pool.Holds text ↔ pool.Knows text := fun _ => hr.valid.knows_iff_holds.symm
  constructor
  case ok_iff =>
    simp only [hholds]
    constructor
    · rintro ⟨out', h⟩
      have hcount := count_of_write h
      exact ⟨hcount, ((write_ok_iff ⟨hcount, hlen⟩).mp h).1⟩
    · rintro ⟨hcount, hk⟩
      exact ⟨_, (write_ok_iff ⟨hcount, hlen⟩).mpr ⟨hk, rfl⟩⟩
  case kept =>
    intro out' h
    have hf : m.Fits := ⟨count_of_write h, hlen⟩
    have hout := ((write_ok_iff hf).mp h).2
    exact ⟨_, hout, hout ▸ write_extends hf h hext⟩
  case refused => exact write_refused
  case stopped =>
    simp only [hholds]
    exact fun hcount e out' h => stopped_of_write ⟨hcount, hlen⟩ hext h

theorem writes_overdeclared :
    Pool.doubled.Reachable ∧
    (∀ a ∈ Fragment.overdeclared.attributes, a.info.length < 2 ^ 32) ∧
    Writes .doubled (Pool.doubled.afterAll [.resolve Fragment.overdeclared]) Fragment.overdeclared
      #[0xCA] := by
  have hlen : ∀ a ∈ Fragment.overdeclared.attributes, a.info.length < 2 ^ 32 := by decide
  exact ⟨Pool.doubled_reachable, hlen, writes_of_reachable Pool.doubled_reachable _ hlen _⟩

end Method

end ClassFile
