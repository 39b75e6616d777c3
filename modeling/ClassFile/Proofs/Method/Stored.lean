import ClassFile.Method.Codec
import ClassFile.Proofs.Flags.Word
import ClassFile.Proofs.Record
import Mathlib.Data.List.Forall2

namespace ClassFile

open BigEndian

structure Attribute.Stored where
  name : UInt16
  info : List UInt8

structure Method.Stored where
  word : UInt16
  name : UInt16
  descriptor : UInt16
  attributes : List Attribute.Stored

variable {pool : Pool} {r t : Reader} {tracing : Tracing}

namespace Attribute

def lines (tracing : Tracing) (a : Attribute) : List Trace.Line :=
  tracing.lines (summary a.name (.ofNat a.info.length))

namespace Stored

def bytes (s : Stored) : List UInt8 :=
  toBytes 2 s.name.toNat ++ (toBytes 4 s.info.length ++ s.info)

def Fits (s : Stored) : Prop := s.info.length ≤ maxLength

structure Denotes (pool : Pool) (s : Stored) (a : Attribute) : Prop where
  name : pool.get s.name = .ok (.utf8 a.name)
  info : s.info = a.info

structure Represents (pool : Pool) (s : Stored) (a : Attribute) : Prop where
  name : pool.Lowest (.utf8 a.name) s.name
  info : s.info = a.info

lemma Represents.denotes {s : Stored} {a : Attribute} (h : s.Represents pool a) :
    s.Denotes pool a :=
  ⟨h.name.holds, h.info⟩

end Stored

variable {a : Attribute} {s : Stored}

theorem read_ok_iff :
    read pool tracing r = .ok a t ↔
      ∃ s : Stored, s.Fits ∧ s.Denotes pool a ∧ r.Advances s.bytes (a.lines tracing) t := by
  simp only [read, Step.bind_eq_ok_iff, Step.pure_eq_ok_iff, ReadRecord.text_ok_iff,
    ReadRecord.u4_ok_iff, ReadRecord.trace_ok_iff, ReadRecord.bytes_ok_iff, Stored.bytes,
    Reader.advances_quiet_append]
  constructor
  · rintro ⟨name, s₁, ⟨i, hi, h₁⟩, length, s₂, h₂, ⟨⟩, s₃, h₃, info, s₄, ⟨hlen, h₄⟩, rfl, rfl⟩
    have hlines : lines tracing ⟨name, info⟩ = tracing.lines (summary name length) := by
      rw [lines, hlen, UInt32.ofNat_toNat]
    refine ⟨⟨i, info⟩, ?_, ⟨hi, rfl⟩, s₁, h₁, s₂, by rwa [hlen], ?_⟩
    · exact Nat.le_of_lt_succ (hlen.trans_lt length.toNat_lt)
    · rw [hlines, ← List.append_nil (tracing.lines _)]
      exact Reader.advances_shown_append.mpr ⟨s₃, h₃, h₄⟩
  · rintro ⟨⟨i, info⟩, hf, ⟨hi, rfl⟩, s₁, h₁, s₂, h₂, h⟩
    have hlen : (UInt32.ofNat a.info.length).toNat = a.info.length :=
      UInt32.toNat_ofNat_of_lt' (Nat.lt_succ_of_le hf)
    rw [lines, ← List.append_nil (tracing.lines _)] at h
    obtain ⟨s₃, h₃, h₄⟩ := Reader.advances_shown_append.mp h
    exact ⟨a.name, s₁, ⟨i, hi, h₁⟩, _, s₂, hlen.symm ▸ h₂, (), s₃, h₃, a.info, t, ⟨hlen.symm, h₄⟩,
      rfl, rfl⟩

theorem write_appends (hv : pool.Valid) (hf : s.Fits) (h : s.Represents pool a) :
    (write pool a).Appends s.bytes := by
  have hle : ¬ a.info.length > maxLength := Nat.not_lt.mpr (h.info ▸ hf)
  have hinfo : a.info = s.info := h.info.symm
  rw [write, if_neg hle, hinfo]
  exact (Write.text_appends hv h.name).then
    ((Write.u4_appends (Nat.lt_succ_of_le hf)).then (Write.bytes_appends _))

variable {as : List Attribute} {ss : List Stored}

lemma readAll_ok_iff {n : Nat} :
    (List.replicate n ()).mapM (fun _ => read pool tracing) r = .ok as t ↔
      ∃ ss : List Stored, ss.length = n ∧ (∀ s ∈ ss, s.Fits) ∧
        List.Forall₂ (Stored.Denotes pool) ss as ∧
        r.Advances (ss.flatMap Stored.bytes) (as.flatMap (lines tracing)) t := by
  -- by the declared count, which both the values and their stored forms have to match
  induction n generalizing r as with
  | zero =>
    rw [List.replicate_zero, Step.mapM_nil_eq_ok_iff]
    constructor
    · rintro ⟨rfl, rfl⟩
      exact ⟨[], rfl, by simp, .nil, Reader.advances_nil.mpr rfl⟩
    · rintro ⟨ss, hn, _, has, h⟩
      obtain rfl := List.eq_nil_of_length_eq_zero hn
      obtain rfl := List.forall₂_nil_left_iff.mp has
      exact ⟨rfl, Reader.advances_nil.mp h⟩
  | succ n ih =>
    rw [List.replicate_succ, Step.mapM_cons_eq_ok_iff]
    constructor
    · rintro ⟨a, u, as, ha, has, rfl⟩
      obtain ⟨s, hf, hs, h⟩ := read_ok_iff.mp ha
      obtain ⟨ss, hn, hfs, hss, h'⟩ := ih.mp has
      refine ⟨s :: ss, congrArg (· + 1) hn, ?_, .cons hs hss, Reader.advances_append.mpr ⟨u, h, h'⟩⟩
      simpa using ⟨hf, hfs⟩
    · rintro ⟨ss, hn, hfs, has, h⟩
      obtain ⟨s, ss, rfl⟩ := List.exists_cons_of_length_eq_add_one hn
      obtain ⟨a, as, hs, hss, rfl⟩ := List.forall₂_cons_left_iff.mp has
      obtain ⟨u, h, h'⟩ := Reader.advances_append.mp h
      rw [List.forall_mem_cons] at hfs
      exact ⟨a, u, as, read_ok_iff.mpr ⟨s, hfs.1, hs, h⟩,
        ih.mpr ⟨ss, Nat.succ.inj hn, hfs.2, hss, h'⟩, rfl⟩

lemma writeAll_appends (hv : pool.Valid) (hf : ∀ s ∈ ss, s.Fits)
    (h : List.Forall₂ (Stored.Represents pool) ss as) :
    (as.forM (write pool)).Appends (ss.flatMap Stored.bytes) := by
  induction h with
  | nil => exact Write.appends_nil
  | cons hs _ ih =>
    rw [List.forall_mem_cons] at hf
    exact (write_appends hv hf.1 hs).then (ih hf.2)

end Attribute

namespace Method

def lines (tracing : Tracing) (word : UInt16) (m : Method) : List Trace.Line :=
  tracing.lines (Header.render ⟨m.name, m.descriptor, word, m.attributes.length⟩) ++
    m.attributes.flatMap (Attribute.lines tracing.nested)

namespace Stored

def bytes (s : Stored) : List UInt8 :=
  toBytes 2 s.word.toNat ++ (toBytes 2 s.name.toNat ++ (toBytes 2 s.descriptor.toNat ++
    (toBytes 2 s.attributes.length ++ s.attributes.flatMap Attribute.Stored.bytes)))

structure Fits (s : Stored) : Prop where
  count : s.attributes.length ≤ maxAttributes
  attributes : ∀ a ∈ s.attributes, a.Fits

structure Denotes (pool : Pool) (s : Stored) (m : Method) : Prop where
  flags : m.flags = (Flags.ofWord s.word).normalized
  name : pool.get s.name = .ok (.utf8 m.name)
  descriptor : pool.get s.descriptor = .ok (.utf8 m.descriptor)
  attributes : List.Forall₂ (Attribute.Stored.Denotes pool) s.attributes m.attributes

structure Represents (pool : Pool) (s : Stored) (m : Method) : Prop where
  flags : s.word = m.flags.word
  name : pool.Lowest (.utf8 m.name) s.name
  descriptor : pool.Lowest (.utf8 m.descriptor) s.descriptor
  attributes : List.Forall₂ (Attribute.Stored.Represents pool) s.attributes m.attributes

lemma Represents.denotes {s : Stored} {m : Method} (h : s.Represents pool m) :
    s.Denotes pool { m with flags := m.flags.normalized } where
  flags := by rw [h.flags, Flags.ofWord_word]
  name := h.name.holds
  descriptor := h.descriptor.holds
  attributes := h.attributes.imp fun _ _ => Attribute.Stored.Represents.denotes

end Stored

variable {m : Method} {s : Stored}

theorem read_ok_iff :
    read pool tracing r = .ok m t ↔
      ∃ s : Stored, s.Fits ∧ s.Denotes pool m ∧ r.Advances s.bytes (m.lines tracing s.word) t := by
  simp only [read, Step.bind_eq_ok_iff, Step.pure_eq_ok_iff, ReadRecord.text_ok_iff,
    ReadRecord.u2_ok_iff, ReadRecord.trace_ok_iff, Attribute.readAll_ok_iff, Stored.bytes,
    Reader.advances_quiet_append]
  constructor
  · rintro ⟨word, s₁, h₁, name, s₂, ⟨i, hi, h₂⟩, descriptor, s₃, ⟨j, hj, h₃⟩, count, s₄, h₄,
      ⟨⟩, s₅, h₅, as, s₆, ⟨ss, hn, hf, has, h₆⟩, rfl, rfl⟩
    have hlen : as.length = count.toNat := has.length_eq.symm.trans hn
    refine ⟨⟨word, i, j, ss⟩, ⟨?_, hf⟩, ⟨rfl, hi, hj, has⟩, s₁, h₁, s₂, h₂, s₃, h₃, s₄,
      by rwa [hn], ?_⟩
    · exact Nat.le_of_lt_succ (hn.trans_lt count.toNat_lt)
    · rw [lines, ofParts, hlen]
      exact Reader.advances_shown_append.mpr ⟨s₅, h₅, h₆⟩
  · rintro ⟨⟨word, i, j, ss⟩, hf, hm, s₁, h₁, s₂, h₂, s₃, h₃, s₄, h₄, h⟩
    have hlen : (UInt16.ofNat ss.length).toNat = ss.length :=
      UInt16.toNat_ofNat_of_lt' (Nat.lt_succ_of_le hf.count)
    obtain ⟨s₅, h₅, h₆⟩ := Reader.advances_shown_append.mp h
    refine ⟨word, s₁, h₁, m.name, s₂, ⟨i, hm.name, h₂⟩, m.descriptor, s₃, ⟨j, hm.descriptor, h₃⟩,
      .ofNat ss.length, s₄, by rwa [hlen], (), s₅, ?_, m.attributes, t,
      ⟨ss, hlen.symm, hf.attributes, hm.attributes, h₆⟩, ?_, rfl⟩
    · rw [hlen, hm.attributes.length_eq]
      exact h₅
    · rw [ofParts, ← hm.flags]

theorem write_appends (hv : pool.Valid) (hf : s.Fits) (h : s.Represents pool m) :
    (write pool m).Appends s.bytes := by
  have hlen : m.attributes.length = s.attributes.length := h.attributes.length_eq.symm
  have hle : ¬ m.attributes.length > maxAttributes := Nat.not_lt.mpr (hlen ▸ hf.count)
  rw [write, if_neg hle, hlen, ← h.flags]
  exact (Write.bytes_appends _).then ((Write.text_appends hv h.name).then
    ((Write.text_appends hv h.descriptor).then ((Write.u2_appends (Nat.lt_succ_of_le hf.count)).then
      (Attribute.writeAll_appends hv hf.attributes h.attributes))))

end Method

end ClassFile
