import ClassFile.Proofs.Method.Stored
import ClassFile.Proofs.Pool.Representation

/-! Writing back what was read. The flag word and the indices become canonical, and nothing else
changes. -/

namespace ClassFile

open BigEndian

variable {pool : Pool} {i j : UInt16}

namespace Pool

def Redirects (pool : Pool) (i j : UInt16) : Prop :=
  ∃ text, pool.get i = .ok (.utf8 text) ∧ pool.Lowest (.utf8 text) j

def IsLowest (pool : Pool) (i : UInt16) : Prop := ∃ text, pool.Lowest (.utf8 text) i

lemma Redirects.eq_iff (h : pool.Redirects i j) : j = i ↔ pool.IsLowest i := by
  obtain ⟨text, hi, hj⟩ := h
  constructor
  · rintro rfl
    exact ⟨text, hj⟩
  · rintro ⟨text', hi'⟩
    have htext : text' = text := by simpa [hi] using hi'.holds.symm
    exact hj.unique (htext ▸ hi')

end Pool

namespace Attribute.Stored

structure Rewrites (pool : Pool) (s c : Stored) : Prop where
  name : pool.Redirects s.name c.name
  info : c.info = s.info

variable {s c : Stored} {ss cs : List Stored} {as : List Attribute} {x y : List UInt8}

lemma exists_rewrites {a : Attribute} (h : s.Denotes pool a) :
    ∃ c : Stored, c.Represents pool a ∧ s.Rewrites pool c := by
  obtain ⟨j, hj⟩ := Pool.exists_lowest h.name
  exact ⟨⟨j, s.info⟩, ⟨hj, h.info⟩, ⟨a.name, h.name, hj⟩, rfl⟩

lemma exists_rewrites_all (h : List.Forall₂ (Denotes pool) ss as) :
    ∃ cs : List Stored, List.Forall₂ (Represents pool) cs as ∧
      List.Forall₂ (Rewrites pool) ss cs := by
  induction h with
  | nil => exact ⟨[], .nil, .nil⟩
  | cons hs _ ih =>
    obtain ⟨c, hc, hw⟩ := exists_rewrites hs
    obtain ⟨cs, hcs, hws⟩ := ih
    exact ⟨c :: cs, .cons hc hcs, .cons hw hws⟩

lemma Rewrites.length_bytes (h : s.Rewrites pool c) : c.bytes.length = s.bytes.length := by
  simp [bytes, h.info, toBytes_length]

lemma Rewrites.eq_iff (h : s.Rewrites pool c) : c = s ↔ pool.IsLowest s.name := by
  have hname := h.name.eq_iff
  have hinfo := h.info
  cases s
  cases c
  simp_all

lemma bytes_append_inj (hs : s.Fits) (hc : c.Fits) (h : s.bytes ++ x = c.bytes ++ y) :
    s = c ∧ x = y := by
  simp only [bytes, List.append_assoc] at h
  obtain ⟨hname, h⟩ := List.append_inj h (by simp [toBytes_length])
  obtain ⟨hlen, h⟩ := List.append_inj h (by simp [toBytes_length])
  have hlen := toBytes_inj (Nat.lt_succ_of_le hs) (Nat.lt_succ_of_le hc) hlen
  obtain ⟨hinfo, hxy⟩ := List.append_inj h hlen
  have hname := toBytes_inj s.name.toNat_lt c.name.toNat_lt hname
  cases s
  cases c
  simp_all [UInt16.toNat_inj]

lemma flatMap_bytes_inj (hs : ∀ s ∈ ss, s.Fits) (hc : ∀ c ∈ cs, c.Fits)
    (hlen : ss.length = cs.length) (h : ss.flatMap bytes = cs.flatMap bytes) : ss = cs := by
  induction ss generalizing cs with
  | nil => exact (List.eq_nil_of_length_eq_zero hlen.symm).symm
  | cons s ss ih =>
    obtain ⟨c, cs, rfl⟩ := List.exists_cons_of_length_eq_add_one hlen.symm
    rw [List.forall_mem_cons] at hs hc
    obtain ⟨rfl, htail⟩ := bytes_append_inj hs.1 hc.1 h
    exact congrArg (s :: ·) (ih hs.2 hc.2 (Nat.succ.inj hlen) htail)

lemma rewrites_all (h : List.Forall₂ (Rewrites pool) ss cs) (hf : ∀ s ∈ ss, s.Fits) :
    (∀ c ∈ cs, c.Fits) ∧ (cs.flatMap bytes).length = (ss.flatMap bytes).length ∧
      (cs = ss ↔ ∀ s ∈ ss, pool.IsLowest s.name) := by
  induction h with
  | nil => simp
  | @cons s c ss cs hs _ ih =>
    rw [List.forall_mem_cons] at hf
    obtain ⟨hfit, hlen, heq⟩ := ih hf.2
    refine ⟨?_, ?_, ?_⟩
    · rw [List.forall_mem_cons]
      exact ⟨by rw [Fits, hs.info]; exact hf.1, hfit⟩
    · rw [List.flatMap_cons, List.flatMap_cons, List.length_append, List.length_append,
        hs.length_bytes, hlen]
    · rw [List.cons.injEq, List.forall_mem_cons, hs.eq_iff, heq]

end Attribute.Stored

namespace Method

namespace Stored

structure Rewrites (pool : Pool) (s c : Stored) : Prop where
  word : c.word = Flags.canonicalWord s.word
  name : pool.Redirects s.name c.name
  descriptor : pool.Redirects s.descriptor c.descriptor
  attributes : List.Forall₂ (Attribute.Stored.Rewrites pool) s.attributes c.attributes

structure IsCanonical (pool : Pool) (s : Stored) : Prop where
  known : s.word &&& ~~~0x1DFF = 0
  visibility : [0x0001, 0x0002, 0x0004].countP (fun bit => s.word &&& bit ≠ 0) ≤ 1
  name : pool.IsLowest s.name
  descriptor : pool.IsLowest s.descriptor
  attributes : ∀ a ∈ s.attributes, pool.IsLowest a.name

variable {s c : Stored} {m : Method}

lemma exists_rewrites (h : s.Denotes pool m) :
    ∃ c : Stored, c.Represents pool m ∧ s.Rewrites pool c := by
  obtain ⟨i, hi⟩ := Pool.exists_lowest h.name
  obtain ⟨j, hj⟩ := Pool.exists_lowest h.descriptor
  obtain ⟨cs, hcs, hws⟩ := Attribute.Stored.exists_rewrites_all h.attributes
  have hword : m.flags.word = Flags.canonicalWord s.word := by
    rw [h.flags, Flags.word_normalized_ofWord]
  exact ⟨⟨m.flags.word, i, j, cs⟩, ⟨rfl, hi, hj, hcs⟩,
    ⟨hword, ⟨m.name, h.name, hi⟩, ⟨m.descriptor, h.descriptor, hj⟩, hws⟩⟩

lemma Rewrites.fits (h : s.Rewrites pool c) (hf : s.Fits) : c.Fits where
  count := h.attributes.length_eq ▸ hf.count
  attributes := (Attribute.Stored.rewrites_all h.attributes hf.attributes).1

lemma Rewrites.length_bytes (h : s.Rewrites pool c) (hf : s.Fits) :
    c.bytes.length = s.bytes.length := by
  have hlen := (Attribute.Stored.rewrites_all h.attributes hf.attributes).2.1
  simp only [bytes, List.length_append, toBytes_length, hlen]

lemma Rewrites.eq_iff (h : s.Rewrites pool c) (hf : s.Fits) : c = s ↔ s.IsCanonical pool := by
  have hword := h.word
  have hflags := @Flags.canonicalWord_eq_self_iff s.word
  have hname := h.name.eq_iff
  have hdescriptor := h.descriptor.eq_iff
  have has := (Attribute.Stored.rewrites_all h.attributes hf.attributes).2.2
  constructor
  · rintro rfl
    obtain ⟨hknown, hvis⟩ := hflags.mp hword.symm
    exact ⟨hknown, hvis, hname.mp rfl, hdescriptor.mp rfl, has.mp rfl⟩
  · intro hc
    have h₁ := hword.trans (hflags.mpr ⟨hc.known, hc.visibility⟩)
    have h₂ := hname.mpr hc.name
    have h₃ := hdescriptor.mpr hc.descriptor
    have h₄ := has.mpr hc.attributes
    cases s
    cases c
    simp_all

lemma bytes_inj (hs : s.Fits) (hc : c.Fits) (h : s.bytes = c.bytes) : s = c := by
  obtain ⟨hword, h⟩ := List.append_inj h (by simp [toBytes_length])
  obtain ⟨hname, h⟩ := List.append_inj h (by simp [toBytes_length])
  obtain ⟨hdescriptor, h⟩ := List.append_inj h (by simp [toBytes_length])
  obtain ⟨hcount, h⟩ := List.append_inj h (by simp [toBytes_length])
  have hword := toBytes_inj s.word.toNat_lt c.word.toNat_lt hword
  have hname := toBytes_inj s.name.toNat_lt c.name.toNat_lt hname
  have hdescriptor := toBytes_inj s.descriptor.toNat_lt c.descriptor.toNat_lt hdescriptor
  have hcount := toBytes_inj (Nat.lt_succ_of_le hs.count) (Nat.lt_succ_of_le hc.count) hcount
  have has := Attribute.Stored.flatMap_bytes_inj hs.attributes hc.attributes hcount h
  cases s
  cases c
  simp_all [UInt16.toNat_inj]

end Stored

/-- Of `data` the bytes from `start` to `stop` are `s`, and writing `m` puts `c` in their place. -/
structure WrittenBack (pool : Pool) (data : List UInt8) (start stop : Nat) (m : Method)
    (s c : Stored) : Prop where
  fits : s.Fits
  consumed : data.extract start stop = s.bytes
  rewrites : s.Rewrites pool c
  written : (write pool m).Appends c.bytes
  length : c.bytes.length = stop - start
  unchanged_iff : c.bytes = data.extract start stop ↔ s.IsCanonical pool
  reread : ∀ rest tracing shown, ∃ t, t.cursor = ⟨c.bytes.length, rest⟩ ∧
    read pool tracing ⟨.ofBytes (c.bytes ++ rest), shown⟩ = .ok m t

variable {m : Method} {t : Reader} {tracing : Tracing} {shown : Array Trace.Line}
  {data : List UInt8} {start : Nat}

theorem written_back_of_read (hr : pool.Reachable)
    (h : read pool tracing ⟨.startAt data start, shown⟩ = .ok m t) :
    ∃ s c, WrittenBack pool data start t.cursor.pos m s c := by
  obtain ⟨s, hf, hs, ⟨hrest, hpos⟩, _⟩ := read_ok_iff.mp h
  obtain ⟨c, hc, hw⟩ := Stored.exists_rewrites hs
  have hfc := hw.fits hf
  have hlen : t.cursor.pos - start = s.bytes.length := by
    rw [hpos]
    exact Nat.add_sub_cancel_left ..
  have hdata : data.extract start t.cursor.pos = s.bytes := by
    rw [List.extract_eq_take_drop, hlen]
    exact (congrArg (List.take _) hrest).trans List.take_left
  -- flags that were read are normalized already, so reading them again changes nothing
  have hm : { m with flags := m.flags.normalized } = m := by
    rw [hs.flags, Flags.normalized_normalized, ← hs.flags]
  refine ⟨s, c, hf, hdata, hw, write_appends hr.valid hfc hc, ?_, ?_, fun rest tracing shown => ?_⟩
  · rw [hlen, hw.length_bytes hf]
  · rw [hdata, ← hw.eq_iff hf]
    exact ⟨Stored.bytes_inj hfc hf, congrArg Stored.bytes⟩
  · refine ⟨⟨⟨c.bytes.length, rest⟩, shown ++ m.lines tracing c.word⟩, rfl, ?_⟩
    refine read_ok_iff.mpr ⟨c, hfc, hm ▸ hc.denotes, ⟨rfl, ?_⟩, rfl⟩
    exact (Nat.zero_add _).symm

/-- A record behind another byte, with an unknown bit, three visibility bits and an index that
is not the lowest of its text. -/
def redundant : List UInt8 :=
  [0xFF, 0x20, 0x07, 0, 2, 0, 1, 0, 1, 0, 2, 0, 0, 0, 1, 0xAB, 0xCD]

theorem written_back_redundant :
    ∃ s c, WrittenBack .doubled redundant 1 16
      ⟨"a", "a", .ofList [.accPrivate], [⟨"a", [0xAB]⟩]⟩ s c := by
  have h : read .doubled .silent ⟨.startAt redundant 1, #[]⟩ =
      .ok ⟨"a", "a", .ofList [.accPrivate], [⟨"a", [0xAB]⟩]⟩ ⟨⟨16, [0xCD]⟩, #[]⟩ := rfl
  exact written_back_of_read Pool.doubled_reachable h

end Method

end ClassFile
