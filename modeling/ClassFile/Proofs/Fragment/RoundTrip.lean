import ClassFile.Fragment
import ClassFile.Proofs.Method.Stored
import ClassFile.Proofs.Pool.Runs

namespace ClassFile

open BigEndian

variable {pool : Pool} {text : String}

namespace Pool

def indexFor (pool : Pool) (text : String) : UInt16 := (pool.find? (.utf8 text)).getD 0

lemma Knows.lowest (hk : pool.Knows text) (hv : pool.Valid) :
    pool.Lowest (.utf8 text) (pool.indexFor text) := by
  obtain ⟨i, hi⟩ := hk
  rw [indexFor, hi]
  exact hv.find?_eq_some_iff.mp hi

end Pool

def Attribute.stored (pool : Pool) (a : Attribute) : Attribute.Stored :=
  ⟨pool.indexFor a.name, a.info⟩

namespace Method

def stored (pool : Pool) (m : Method) : Stored :=
  ⟨m.flags.word, pool.indexFor m.name, pool.indexFor m.descriptor,
    m.attributes.map (Attribute.stored pool)⟩

structure Fits (m : Method) : Prop where
  count : m.attributes.length ≤ 65535
  lengths : ∀ a ∈ m.attributes, a.info.length < 2 ^ 32

variable {m : Method}

lemma Fits.stored (hf : m.Fits) : (m.stored pool).Fits where
  count := (List.length_map _).trans_le hf.count
  attributes := List.forall_mem_map.mpr fun a ha => Nat.le_of_lt_succ (hf.lengths a ha)

lemma Resolved.stored_represents (hm : m.Resolved pool) (hv : pool.Valid) :
    (m.stored pool).Represents pool m where
  flags := rfl
  name := hm.name.lowest hv
  descriptor := hm.descriptor.lowest hv
  attributes := List.forall₂_map_left_iff.mpr
    (List.forall₂_same.mpr fun a ha => ⟨(hm.attributes a ha).lowest hv, rfl⟩)

end Method

namespace Fragment

variable {c d : Cursor} {ss : List Method.Stored} {ms : List Method}

lemma during_ok_iff {α : Type} {stage : Stage} {read : Read α} {a : α} :
    during stage read c = .ok a d ↔ read c = .ok a d := by
  rw [during]
  cases read c <;> simp

lemma readMethods_ok (hf : ∀ s ∈ ss, s.Fits)
    (h : List.Forall₂ (Method.Stored.Denotes pool) ss ms) {numbers : List Nat}
    (hn : numbers.length = ss.length) (hs : c.Spans (ss.flatMap Method.Stored.bytes) d) :
    (numbers.mapM fun i => during (.method i) (ReadRecord.quietly (Method.read pool .silent))) c =
      .ok ms d := by
  induction h generalizing c numbers with
  | nil =>
    obtain rfl := List.eq_nil_of_length_eq_zero hn
    exact Step.mapM_nil_eq_ok_iff.mpr ⟨rfl, Cursor.spans_nil.mp hs⟩
  | @cons s m ss ms hs' _ ih =>
    obtain ⟨i, numbers, rfl⟩ := List.exists_cons_of_length_eq_add_one hn
    obtain ⟨e, he, hs⟩ := Cursor.spans_append.mp hs
    rw [List.forall_mem_cons] at hf
    refine Step.mapM_cons_eq_ok_iff.mpr ⟨m, e, ms, ?_, ih hf.2 (Nat.succ.inj hn) hs, rfl⟩
    have hm : Method.read pool .silent ⟨c, #[]⟩ = .ok m ⟨e, #[] ++ m.lines .silent s.word⟩ :=
      Method.read_ok_iff.mpr ⟨s, hf.1, hs', he, rfl⟩
    exact during_ok_iff.mpr (ReadRecord.quietly_ok_iff.mpr ⟨_, hm⟩)

lemma read_ok (hv : pool.Valid) (hcount : ss.length < 65536) (hf : ∀ s ∈ ss, s.Fits)
    (h : List.Forall₂ (Method.Stored.Denotes pool) ss ms)
    (hs : c.Spans (pool.form ++ (toBytes 2 ss.length ++ ss.flatMap Method.Stored.bytes)) d) :
    read c = .ok ⟨pool, ms⟩ d := by
  obtain ⟨e, he, hs⟩ := Cursor.spans_append.mp hs
  obtain ⟨e', he', hs⟩ := Cursor.spans_append.mp hs
  have hn : (UInt16.ofNat ss.length).toNat = ss.length := UInt16.toNat_ofNat_of_lt' hcount
  refine Step.bind_eq_ok_iff.mpr ⟨pool, e, during_ok_iff.mpr (Pool.read_ok_iff.mpr ⟨hv, he⟩), ?_⟩
  refine Step.bind_eq_ok_iff.mpr ⟨.ofNat ss.length, e', during_ok_iff.mpr ?_, ?_⟩
  · rwa [Read.u2_ok_iff, hn]
  · refine Step.bind_eq_ok_iff.mpr ⟨ms, d, readMethods_ok hf h ?_ hs, rfl⟩
    rw [List.length_range, hn]

lemma write_read_ok (hv : pool.Valid) (hcount : ms.length ≤ 65535) (hfits : ∀ m ∈ ms, m.Fits)
    (hms : ∀ m ∈ ms, m.Resolved pool) :
    ∃ poolBytes records, pool.write.Appends poolBytes ∧
      List.Forall₂ (fun m bytes => (Method.write pool m).Appends bytes) ms records ∧
      let data := poolBytes ++ toBytes 2 ms.length ++ records.flatten
      read (.ofBytes data) = .ok ⟨pool, ms.map fun m => { m with flags := m.flags.normalized }⟩
        ⟨data.length, []⟩ := by
  have hrep : ∀ m ∈ ms, (m.stored pool).Represents pool m :=
    fun m hm => (hms m hm).stored_represents hv
  refine ⟨pool.form, ms.map fun m => (m.stored pool).bytes, hv.write_appends, ?_, ?_⟩
  · apply List.forall₂_map_right_iff.mpr
    apply List.forall₂_same.mpr
    intro m hm
    exact Method.write_appends hv (hfits m hm).stored (hrep m hm)
  · have hlen : (ms.map (Method.stored pool)).length = ms.length := List.length_map _
    have hform : (ms.map (Method.stored pool)).flatMap Method.Stored.bytes =
        (ms.map fun m => (m.stored pool).bytes).flatten := by
      rw [List.flatMap_map]
      rfl
    apply read_ok hv (hlen ▸ Nat.lt_succ_of_le hcount)
      (List.forall_mem_map.mpr fun m hm => (hfits m hm).stored)
    · rw [List.forall₂_map_left_iff, List.forall₂_map_right_iff]
      exact List.forall₂_same.mpr fun m hm => (hrep m hm).denotes
    · rw [hlen, hform, ← List.append_assoc]
      exact ⟨(List.append_nil _).symm, (Nat.zero_add _).symm⟩

theorem read_write_of_resolved {start : Pool} {calls : List Pool.Call} (hstart : start.Reachable)
    (hcount : ms.length ≤ 65535) (hfits : ∀ m ∈ ms, m.Fits)
    (hresolve : ∀ m ∈ ms, ∃ before later, calls = before ++ .resolve m :: later ∧
      (Pool.Call.resolve m).Succeeds (start.afterAll before)) :
    ∃ poolBytes records, (start.afterAll calls).write.Appends poolBytes ∧
      List.Forall₂ (fun m bytes => (Method.write (start.afterAll calls) m).Appends bytes)
        ms records ∧
      let data := poolBytes ++ toBytes 2 ms.length ++ records.flatten
      read (.ofBytes data) =
        .ok ⟨start.afterAll calls, ms.map fun m => { m with flags := m.flags.normalized }⟩
          ⟨data.length, []⟩ := by
  have hv : (start.afterAll calls).Valid := (hstart.afterAll calls).valid
  apply write_read_ok hv hcount hfits
  intro m hm
  -- whatever is called between a resolve and the write, what was resolved stays
  obtain ⟨before, later, hc, hs⟩ := hresolve m hm
  exact Method.resolved_afterAll hc hs

def overdeclared : Method :=
  ⟨"a", "()V", .ofList [.accPublic, .accPrivate], [⟨"Code", [0xB1]⟩, ⟨"a", []⟩]⟩

lemma overdeclared_resolves : (Pool.Call.resolve overdeclared).Succeeds .empty := by
  have hst : ∀ text ∈ ["a", "()V", "Code"], (Constant.utf8 text).Storable := by
    intro text _
    rw [Constant.Storable, Text.ModifiedUtf8.encode_length]
    decide +revert
  apply Method.resolve_ok
  · exact hst "a" (by decide)
  · exact hst "()V" (by decide)
  · simpa [overdeclared] using And.intro (hst "Code" (by decide)) (hst "a" (by decide))
  · decide

theorem read_write_overdeclared :
    ∃ poolBytes records,
      (Pool.empty.afterAll [.resolve overdeclared, .add (.rawUtf8 [0xFF])]).write.Appends poolBytes ∧
      List.Forall₂ (fun m bytes => (Method.write
        (Pool.empty.afterAll [.resolve overdeclared, .add (.rawUtf8 [0xFF])]) m).Appends bytes)
        [overdeclared, overdeclared] records ∧
      let data := poolBytes ++ toBytes 2 2 ++ records.flatten
      read (.ofBytes data) =
        .ok ⟨Pool.empty.afterAll [.resolve overdeclared, .add (.rawUtf8 [0xFF])],
          List.replicate 2 { overdeclared with flags := .ofList [.accPrivate] }⟩
          ⟨data.length, []⟩ := by
  have hfits : overdeclared.Fits := ⟨by decide, by decide⟩
  refine read_write_of_resolved .empty (by decide) ?_ ?_
  · simpa using hfits
  · intro m hm
    obtain rfl : m = overdeclared := by simpa using hm
    exact ⟨[], [.add (.rawUtf8 [0xFF])], rfl, overdeclared_resolves⟩

end Fragment

end ClassFile
