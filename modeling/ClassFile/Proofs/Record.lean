import ClassFile.Proofs.Pool.Lookup
import ClassFile.Proofs.Spans
import ClassFile.Record

namespace ClassFile

open BigEndian

def Reader.Advances (r : Reader) (bytes : List UInt8) (lines : List Trace.Line) (t : Reader) :
    Prop :=
  r.cursor.Spans bytes t.cursor ∧ t.shown = r.shown ++ lines

variable {pool : Pool} {r t : Reader} {tracing : Tracing} {text : String} {i : UInt16}

namespace Reader

variable {as bs : List UInt8} {ls ms : List Trace.Line}

lemma advances_nil : r.Advances [] [] t ↔ r = t := by
  cases r
  cases t
  simp [Advances, Cursor.spans_nil, eq_comm]

lemma advances_append :
    r.Advances (as ++ bs) (ls ++ ms) t ↔ ∃ s, r.Advances as ls s ∧ s.Advances bs ms t := by
  constructor
  · rintro ⟨hs, hl⟩
    obtain ⟨c, hc, hd⟩ := Cursor.spans_append.mp hs
    exact ⟨⟨c, r.shown ++ ls⟩, ⟨hc, rfl⟩, hd, by rw [hl, append_append_list]⟩
  · rintro ⟨s, ⟨hs, hl⟩, hs', hl'⟩
    exact ⟨Cursor.spans_append_of hs hs', by rw [hl', hl, append_append_list]⟩

lemma advances_quiet_append :
    r.Advances (as ++ bs) ls t ↔ ∃ s, r.Advances as [] s ∧ s.Advances bs ls t :=
  (advances_append : r.Advances (as ++ bs) ([] ++ ls) t ↔ _)

lemma advances_shown_append :
    r.Advances as (ls ++ ms) t ↔ ∃ s, r.Advances [] ls s ∧ s.Advances as ms t :=
  (advances_append : r.Advances ([] ++ as) (ls ++ ms) t ↔ _)

end Reader

namespace ReadRecord

lemma lift_ok_iff {α : Type} {read : Read α} {a : α} :
    (liftM read : ReadRecord α) r = .ok a t ↔ read r.cursor = .ok a t.cursor ∧ t.shown = r.shown := by
  cases t
  simp only [liftM, monadLift, MonadLift.monadLift]
  cases read r.cursor <;> simp [and_assoc, eq_comm]

lemma u2_ok_iff :
    (liftM Read.u2 : ReadRecord UInt16) r = .ok i t ↔ r.Advances (toBytes 2 i.toNat) [] t := by
  simp [lift_ok_iff, Read.u2_ok_iff, Reader.Advances]

lemma u4_ok_iff {n : UInt32} :
    (liftM Read.u4 : ReadRecord UInt32) r = .ok n t ↔ r.Advances (toBytes 4 n.toNat) [] t := by
  simp [lift_ok_iff, Read.u4_ok_iff, Reader.Advances]

lemma bytes_ok_iff {n : Nat} {data : List UInt8} :
    (liftM (Read.bytes n) : ReadRecord (List UInt8)) r = .ok data t ↔
      data.length = n ∧ r.Advances data [] t := by
  simp [lift_ok_iff, Read.bytes_ok_iff, Reader.Advances, and_assoc]

lemma trace_ok_iff {render : UInt32 → String} {u : Unit} :
    trace tracing render r = .ok u t ↔ r.Advances [] (tracing.lines render) t := by
  change EStateM.Result.ok () { r with shown := r.shown ++ tracing.lines render } = .ok u t ↔ _
  cases t
  simp [Reader.Advances, Cursor.spans_nil, eq_comm]

lemma text_ok_iff :
    ReadRecord.text pool r = .ok text t ↔
      ∃ i, pool.get i = .ok (.utf8 text) ∧ r.Advances (toBytes 2 i.toNat) [] t := by
  simp only [ReadRecord.text, Step.bind_eq_ok_iff, u2_ok_iff, Step.ofExcept_eq_ok_iff,
    Pool.textAt_ok_iff]
  constructor
  · rintro ⟨i, s, hs, hi, rfl⟩
    exact ⟨i, hi, hs⟩
  · rintro ⟨i, hi, hs⟩
    exact ⟨i, t, hs, hi, rfl⟩

lemma quietly_ok_iff {α : Type} {read : ReadRecord α} {a : α} {c d : Cursor} :
    quietly read c = .ok a d ↔ ∃ shown, read ⟨c, #[]⟩ = .ok a ⟨d, shown⟩ := by
  rw [quietly]
  cases read ⟨c, #[]⟩ with
  | ok b s =>
    constructor
    · rintro ⟨⟩
      exact ⟨s.shown, rfl⟩
    · rintro ⟨_, ⟨⟩⟩
      rfl
  | error e s => simp

end ReadRecord

lemma Write.text_appends (hv : pool.Valid) (h : pool.Lowest (.utf8 text) i) :
    (Write.text pool text).Appends (toBytes 2 i.toNat) := by
  intro out
  have hi := Pool.indexOfText_ok_iff.mpr (hv.find?_eq_some_iff.mpr h)
  exact Step.bind_eq_ok_iff.mpr ⟨i, out, Step.ofExcept_eq_ok_iff.mpr ⟨hi, rfl⟩, rfl⟩

end ClassFile
