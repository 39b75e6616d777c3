import ClassFile.Proofs.Method.Stored
import ClassFile.Proofs.Pool.Lossless
import ClassFile.Proofs.Reading

/-! A read that succeeds depends on the bytes passed over and on no others. -/

namespace ClassFile

namespace Cursor

variable {c d : Cursor} {data data' bytes : List UInt8}

lemma begins_ofBytes (h : data <+: data') : (ofBytes data).Begins (ofBytes data') := ⟨rfl, h⟩

lemma Spans.pos_le (h : (ofBytes data).Spans bytes d) : d.pos ≤ data.length := by
  have hs : (startAt data 0).Spans bytes d := h
  exact (hs.bounds (Nat.zero_le _)).2

lemma Spans.of_take_pos (h : (ofBytes data).Spans bytes d) (h' : data'.take d.pos = bytes) :
    (ofBytes data').Spans bytes ⟨d.pos, data'.drop d.pos⟩ :=
  ⟨(List.take_append_drop d.pos data').symm.trans (congrArg (· ++ _) h'), h.2⟩

end Cursor

namespace Read

/-- Whatever is read stands in some bytes, and these are read alike wherever they stand. -/
def ByForm {α : Type} (read : Read α) : Prop :=
  ∀ c v d, read c = .ok v d → ∃ bytes, c.Spans bytes d ∧ ∀ c' d', c'.Spans bytes d' →
    read c' = .ok v d'

structure SelfDelimiting {α : Type} (read : Read α) : Prop where
  determined : ∀ data v d, read (.ofBytes data) = .ok v d →
    ∀ data' : List UInt8, data'.take d.pos = data.take d.pos →
      ∃ d', read (.ofBytes data') = .ok v d' ∧ d'.pos = d.pos
  truncated : ∀ data v d, read (.ofBytes data) = .ok v d → ∀ k < d.pos,
    ∃ offset needed available d',
      read (.ofBytes (data.take k)) = .error (.outOfBounds offset needed available) d'
  prefix_free : ∀ data v d data' v' d', read (.ofBytes data) = .ok v d →
    read (.ofBytes data') = .ok v' d' → data.take d.pos <+: data'.take d'.pos →
      data.take d.pos = data'.take d'.pos

variable {α : Type} {read : Read α} {data data' : List UInt8} {v v' : α} {d d' : Cursor}

lemma ByForm.determined (hf : ByForm read) (h : read (.ofBytes data) = .ok v d)
    (hd : data'.take d.pos = data.take d.pos) :
    read (.ofBytes data') = .ok v ⟨d.pos, data'.drop d.pos⟩ := by
  obtain ⟨bytes, hs, hread⟩ := hf _ _ _ h
  apply hread
  apply hs.of_take_pos
  rw [hd, hs.take_pos]

lemma ByForm.pos_le (hf : ByForm read) (h : read (.ofBytes data) = .ok v d) :
    d.pos ≤ data.length := by
  obtain ⟨bytes, hs, _⟩ := hf _ _ _ h
  exact hs.pos_le

lemma runsOut_of_truncated (hf : ByForm read)
    (hm : Step.Mirrors Cursor.Begins (fun e c => c.RunsOut e) read)
    (h : read (.ofBytes data) = .ok v d) {k : Nat} (hk : k < d.pos) :
    ∃ e t, read (.ofBytes (data.take k)) = .error e t ∧ t.RunsOut e := by
  obtain ⟨hok, herror⟩ := hm _ _ (Cursor.begins_ofBytes (List.take_prefix k data))
  cases ht : read (.ofBytes (data.take k)) with
  | ok w t =>
    -- the same value would be read from all of `data`, and from fewer bytes than it was
    obtain ⟨t', hb, h'⟩ := hok w t ht
    rw [h] at h'
    cases h'
    have hle := hf.pos_le ht
    rw [hb.1, List.length_take] at hle
    omega
  | error e t =>
    rcases herror e t ht with hstop | ⟨t', h'⟩
    · exact ⟨e, t, rfl, hstop⟩
    · rw [h] at h'
      cases h'

lemma ByForm.prefix_free (hf : ByForm read) (h : read (.ofBytes data) = .ok v d)
    (h' : read (.ofBytes data') = .ok v' d') (hp : data.take d.pos <+: data'.take d'.pos) :
    data.take d.pos = data'.take d'.pos := by
  have hlen : (data.take d.pos).length = d.pos := List.length_take_of_le (hf.pos_le h)
  have htake : data'.take d.pos = data.take d.pos := by
    have heq := List.prefix_iff_eq_take.mp (hp.trans (List.take_prefix ..))
    rw [hlen] at heq
    exact heq.symm
  have hd := hf.determined h htake
  rw [h'] at hd
  cases hd
  exact htake.symm

lemma selfDelimiting (hf : ByForm read)
    (hm : Step.Mirrors Cursor.Begins (fun e c => c.RunsOut e) read) : SelfDelimiting read where
  determined data v d h data' hd := ⟨_, hf.determined h hd, rfl⟩
  truncated data v d h k hk := by
    obtain ⟨e, t, ht, needed, rfl, _⟩ := runsOut_of_truncated hf hm h hk
    exact ⟨_, _, _, t, ht⟩
  prefix_free data v d data' v' d' h h' hp := hf.prefix_free h h' hp

end Read

lemma Constant.byForm_read : Read.ByForm Constant.read := by
  intro c v d h
  obtain ⟨hst, hs⟩ := read_ok_iff.mp h
  exact ⟨v.form, hs, fun c' d' hs' => read_ok_iff.mpr ⟨hst, hs'⟩⟩

lemma Pool.byForm_read : Read.ByForm Pool.read := by
  intro c v d h
  obtain ⟨hv, hs⟩ := read_ok_iff.mp h
  exact ⟨v.form, hs, fun c' d' hs' => read_ok_iff.mpr ⟨hv, hs'⟩⟩

namespace ReadRecord

lemma byForm_quietly {α : Type} {read : ReadRecord α}
    (h : ∀ r v t, read r = .ok v t → ∃ bytes lines, r.Advances bytes lines t ∧
      ∀ r' t', r'.Advances bytes lines t' → read r' = .ok v t') : Read.ByForm (quietly read) := by
  intro c v d hread
  obtain ⟨shown, hread⟩ := quietly_ok_iff.mp hread
  obtain ⟨bytes, lines, ⟨hs, _⟩, hreread⟩ := h _ _ _ hread
  refine ⟨bytes, hs, fun c' d' hs' => ?_⟩
  have hread' := hreread ⟨c', #[]⟩ ⟨d', #[] ++ lines⟩ ⟨hs', rfl⟩
  exact quietly_ok_iff.mpr ⟨_, hread'⟩

end ReadRecord

open ReadRecord

variable (pool : Pool) (tracing : Tracing)

lemma Attribute.byForm_read : Read.ByForm (quietly (Attribute.read pool tracing)) := by
  apply byForm_quietly
  intro r a t h
  obtain ⟨s, hf, hd, ha⟩ := read_ok_iff.mp h
  exact ⟨s.bytes, a.lines tracing, ha, fun _ _ ha' => read_ok_iff.mpr ⟨s, hf, hd, ha'⟩⟩

lemma Method.byForm_read : Read.ByForm (quietly (Method.read pool tracing)) := by
  apply byForm_quietly
  intro r m t h
  obtain ⟨s, hf, hd, ha⟩ := read_ok_iff.mp h
  exact ⟨s.bytes, m.lines tracing s.word, ha, fun _ _ ha' => read_ok_iff.mpr ⟨s, hf, hd, ha'⟩⟩

theorem reads_self_delimiting :
    Read.SelfDelimiting Constant.read ∧ Read.SelfDelimiting Pool.read ∧
    Read.SelfDelimiting (quietly (Attribute.read pool tracing)) ∧
    Read.SelfDelimiting (quietly (Method.read pool tracing)) := by
  refine ⟨?_, ?_, ?_, ?_⟩
  · exact Read.selfDelimiting Constant.byForm_read Constant.composed_read.mirrors
  · exact Read.selfDelimiting Pool.byForm_read Pool.composed_read.mirrors
  · exact Read.selfDelimiting (Attribute.byForm_read pool tracing)
      (Attribute.composed_read pool tracing).mirrors
  · exact Read.selfDelimiting (Method.byForm_read pool tracing)
      (Method.composed_read pool tracing).mirrors

end ClassFile
