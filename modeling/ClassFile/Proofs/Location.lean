import ClassFile.Proofs.Layout
import ClassFile.Proofs.Pool.Representation
import ClassFile.Proofs.Reading

/-! Where a read that fails has stopped: where bytes were missing, or just behind an index that
holds no string. -/

namespace ClassFile

open BigEndian

variable {pool : Pool} {tracing : Tracing} {r t : Reader} {c d : Cursor} {i : UInt16}
  {reason : BadReference} {data bytes : List UInt8} {start : Nat} {e : Error}

namespace Cursor

lemma Spans.eq_startAt (h : (startAt data start).Spans bytes d) : d = startAt data d.pos := by
  have hrest : data.drop start = bytes ++ d.rest := h.1
  have hpos : d.pos = start + bytes.length := h.2
  have hdrop : data.drop d.pos = d.rest := by
    rw [hpos, ← List.drop_drop, hrest, List.drop_left]
  rw [startAt, hdrop]

lemma Spans.extract_pos (h : (startAt data start).Spans bytes d) :
    data.extract start d.pos = bytes := by
  have hrest : data.drop start = bytes ++ d.rest := h.1
  have hpos : d.pos = start + bytes.length := h.2
  rw [List.extract_eq_take_drop, hpos, Nat.add_sub_cancel_left, hrest, List.take_left]

end Cursor

namespace Read

/-- Where `read` leaves the cursor when it starts in `data`; apart from missing bytes it reports
`own` errors only. -/
structure Located (own : Error → Prop) (data : List UInt8) (start : Nat) {α : Type}
    (read : Read α) : Prop where
  start_le : start ≤ (Step.after read (.startAt data start)).pos
  le_length : (Step.after read (.startAt data start)).pos ≤ data.length
  outOfBounds : ∀ offset needed available d,
    read (.startAt data start) = .error (.outOfBounds offset needed available) d →
      d.pos = offset ∧ available = data.length - offset ∧ available < needed
  errors : ∀ e d, read (.startAt data start) = .error e d →
    (∃ offset needed available, e = .outOfBounds offset needed available) ∨ own e

variable {own : Error → Prop} {α : Type} {read : Read α}

lemma located (hw : Step.Walks Cursor.Passes read)
    (hf : Step.Faults (fun e c => c.RunsOut e ∨ own e) read)
    (hown : ∀ offset needed available, ¬ own (.outOfBounds offset needed available))
    (hs : start ≤ data.length) : Located own data start read := by
  obtain ⟨bytes, hspans⟩ := Cursor.passes_of_reflTransGen (hw (.startAt data start))
  obtain ⟨hstart, hlength⟩ := hspans.bounds hs
  refine ⟨hstart, hlength, ?_, ?_⟩
  · intro offset needed available d h
    rcases hf _ _ _ h with ⟨_, he, hlt⟩ | he
    · cases he
      rw [Step.after_of_error h] at hspans
      rw [hspans.eq_startAt] at hlt ⊢
      exact ⟨rfl, List.length_drop, hlt⟩
    · exact absurd he (hown offset needed available)
  · intro e d h
    rcases hf _ _ _ h with ⟨needed, rfl, _⟩ | he
    · exact Or.inl ⟨_, _, _, rfl⟩
    · exact Or.inr he

end Read

namespace ReadRecord

lemma lift_ne_invalidReference {α : Type} {read : Read α}
    (h : Read.Composed (fun _ => False) read) :
    (liftM read : ReadRecord α) r ≠ .error (.invalidReference i reason) t := by
  intro he
  rcases h.faults _ _ _ (lift_error_iff.mp he).1 with ⟨_, he, _⟩ | hf
  · cases he
  · exact hf

lemma text_refused (h : text pool r = .error (.invalidReference i reason) t) :
    r.cursor.Spans (toBytes 2 i.toNat) t.cursor ∧
      pool.textAt i = .error (.invalidReference i reason) := by
  rcases Step.bind_eq_error_iff.mp h with h | ⟨j, s, hj, h⟩
  · exact absurd h (lift_ne_invalidReference Read.composed_u2)
  · obtain ⟨he, rfl⟩ := Step.ofExcept_eq_error_iff.mp h
    obtain ⟨_, heq⟩ := Pool.textAt_error he
    cases heq
    exact ⟨(u2_ok_iff.mp hj).1, he⟩

end ReadRecord

namespace Attribute.Stored

lemma flatMap_bytes_fields (s : Stored) : s.fields.flatMap Field.bytes = s.bytes := by
  simp [fields, Field.ofAttribute, Field.bytes, bytes]

lemma flatMap_bytes_flatten (ss : List Stored) :
    (ss.map fields).flatten.flatMap Field.bytes = ss.flatMap Stored.bytes := by
  rw [← List.flatMap_def, List.flatMap_assoc]
  exact List.flatMap_congr fun s _ => flatMap_bytes_fields s

lemma text_mem_flatten_iff {ss : List Stored} :
    .text i ∈ (ss.map fields).flatten ↔ ∃ s ∈ ss, s.name = i := by
  simp [fields, Field.ofAttribute, eq_comm]

lemma exists_layout_of_lt {ss : List Stored} {n : Nat} (hf : ∀ s ∈ ss, s.Fits)
    (hn : ss.length < n) :
    ∃ attributes : List Stored, attributes.length = n ∧ (∀ s ∈ attributes, s.Fits) ∧
      (ss.map fields).flatten ++ [.text i] <+: (attributes.map fields).flatten := by
  -- what stands behind the index does not matter, so the missing attributes are all alike
  refine ⟨ss ++ List.replicate (n - ss.length) ⟨i, []⟩, ?_, ?_, ?_⟩
  · rw [List.length_append, List.length_replicate]
    omega
  · rw [List.forall_mem_append]
    refine ⟨hf, fun s hs => ?_⟩
    rw [List.eq_of_mem_replicate hs]
    exact Nat.zero_le _
  · obtain ⟨k, hk⟩ := Nat.exists_eq_add_one.mpr (Nat.sub_pos_of_lt hn)
    rw [hk, List.replicate_succ, List.map_append, List.flatten_append]
    exact (List.prefix_append_right_inj _).mpr ⟨_, rfl⟩

end Attribute.Stored

/-- From `c` to `d` stand the first of `fields`, up to an index that `pool` refuses with `e`; the
indices in front of it hold strings. -/
structure StopsAt (pool : Pool) (fields earlier : List (Field UInt16)) (i : UInt16) (e : Error)
    (c d : Cursor) : Prop where
  layout : earlier ++ [.text i] <+: fields
  spans : c.Spans (earlier.flatMap Field.bytes ++ toBytes 2 i.toNat) d
  held : ∀ j, .text j ∈ earlier → ∃ text, pool.textAt j = .ok text
  refused : pool.textAt i = .error e

/-- The two bytes in front of `d` are the index `i`, which `pool` refuses with `e`. The record that
begins at `start` begins as one of `layouts`, and its earlier indices hold strings. -/
structure Refused (pool : Pool) (layouts : Set (List (Field UInt16))) (data : List UInt8)
    (start : Nat) (i : UInt16) (e : Error) (d : Cursor) : Prop where
  behind : start + 2 ≤ d.pos
  index : ofBytes (data.extract (d.pos - 2) d.pos) = i.toNat
  refused : pool.textAt i = .error e
  earlier : ∃ fields ∈ layouts, ∃ earlier, earlier ++ [.text i] <+: fields ∧
    data.extract start (d.pos - 2) = earlier.flatMap Field.bytes ∧
    ∀ j, .text j ∈ earlier → ∃ text, pool.textAt j = .ok text

lemma Refused.of_stopsAt {layouts : Set (List (Field UInt16))}
    {fields earlier : List (Field UInt16)} (hfields : fields ∈ layouts)
    (h : StopsAt pool fields earlier i e (.startAt data start) d) :
    Refused pool layouts data start i e d := by
  obtain ⟨m, hearlier, hindex⟩ := Cursor.spans_append.mp h.spans
  have hi : i.toNat < 256 ^ 2 := i.toNat_lt
  have hpos : d.pos = m.pos + 2 := hindex.2
  have hm : d.pos - 2 = m.pos := by omega
  have hstart : m.pos = start + (earlier.flatMap Field.bytes).length := hearlier.2
  refine ⟨by omega, ?_, h.refused, fields, hfields, earlier, h.layout, ?_, h.held⟩
  · rw [hearlier.eq_startAt] at hindex
    rw [hm, hindex.extract_pos, ofBytes_toBytes_of_lt hi]
  · rw [hm, hearlier.extract_pos]

namespace Attribute

lemma read_refused (h : read pool tracing r = .error (.invalidReference i reason) t) :
    r.cursor.Spans (toBytes 2 i.toNat) t.cursor ∧
      pool.textAt i = .error (.invalidReference i reason) := by
  rcases Step.bind_eq_error_iff.mp h with h | ⟨name, s, _, h⟩
  · exact ReadRecord.text_refused h
  rcases Step.bind_eq_error_iff.mp h with h | ⟨length, s, _, h⟩
  · exact absurd h (ReadRecord.lift_ne_invalidReference Read.composed_u4)
  rcases Step.bind_eq_error_iff.mp h with h | ⟨_, s, _, h⟩
  · cases h
  rcases Step.bind_eq_error_iff.mp h with h | ⟨info, s, _, h⟩
  · exact absurd h (ReadRecord.lift_ne_invalidReference (.primitive (.bytes _)))
  · cases h

lemma readAll_refused {n : Nat}
    (h : (List.replicate n ()).mapM (fun _ => read pool tracing) r =
      .error (.invalidReference i reason) t) :
    ∃ ss : List Stored, ss.length < n ∧ (∀ s ∈ ss, s.Fits) ∧
      (∀ s ∈ ss, ∃ text, pool.textAt s.name = .ok text) ∧
      r.cursor.Spans (ss.flatMap Stored.bytes ++ toBytes 2 i.toNat) t.cursor ∧
      pool.textAt i = .error (.invalidReference i reason) := by
  induction n generalizing r with
  | zero => cases h
  | succ n ih =>
    rw [List.replicate_succ, List.mapM_cons] at h
    rcases Step.bind_eq_error_iff.mp h with h | ⟨a, s, ha, h⟩
    · obtain ⟨hs, he⟩ := read_refused h
      exact ⟨[], Nat.succ_pos n, by simp, by simp, hs, he⟩
    rcases Step.bind_eq_error_iff.mp h with h | ⟨as, s', _, h⟩
    · obtain ⟨ss, hn, hf, hheld, hs, he⟩ := ih h
      obtain ⟨stored, hfit, hdenotes, hspans, _⟩ := read_ok_iff.mp ha
      refine ⟨stored :: ss, Nat.succ_lt_succ hn, ?_, ?_, ?_, he⟩
      · simpa using ⟨hfit, hf⟩
      · rw [List.forall_mem_cons]
        exact ⟨⟨a.name, Pool.textAt_ok_iff.mpr hdenotes.name⟩, hheld⟩
      · rw [List.flatMap_cons, List.append_assoc]
        exact Cursor.spans_append_of hspans hs
    · cases h

end Attribute

namespace Method

lemma Stored.exists_stopsAt_attribute {word j k : UInt16} {n : Nat} {ss : List Attribute.Stored}
    (hf : ∀ s ∈ ss, s.Fits) (hn : ss.length < n) (hcount : n ≤ maxAttributes)
    (hj : ∃ text, pool.textAt j = .ok text) (hk : ∃ text, pool.textAt k = .ok text)
    (hss : ∀ s ∈ ss, ∃ text, pool.textAt s.name = .ok text)
    (hs : c.Spans (toBytes 2 word.toNat ++ (toBytes 2 j.toNat ++ (toBytes 2 k.toNat ++
      (toBytes 2 n ++ (ss.flatMap Attribute.Stored.bytes ++ toBytes 2 i.toNat))))) d)
    (he : pool.textAt i = .error e) :
    ∃ (s : Stored) (earlier : List (Field UInt16)), s.Fits ∧
      StopsAt pool s.fields earlier i e c d := by
  obtain ⟨attributes, hlen, hfits, hlayout⟩ := Attribute.Stored.exists_layout_of_lt (i := i) hf hn
  let header : List (Field UInt16) :=
    [.plain (toBytes 2 word.toNat), .text j, .text k, .plain (toBytes 2 n)]
  refine ⟨⟨word, j, k, attributes⟩, header ++ (ss.map Attribute.Stored.fields).flatten,
    ⟨hlen ▸ hcount, hfits⟩, ?_, ?_, ?_, he⟩
  · rw [Stored.fields, Field.ofMethod, List.length_map, hlen, List.append_assoc]
    exact (List.prefix_append_right_inj header).mpr hlayout
  · rw [List.flatMap_append, Attribute.Stored.flatMap_bytes_flatten]
    simpa [header, Field.bytes] using hs
  · intro l hl
    rcases List.mem_append.mp hl with hl | hl
    · have hl : l = j ∨ l = k := by simpa [header] using hl
      rcases hl with rfl | rfl
      · exact hj
      · exact hk
    · obtain ⟨s, hs, rfl⟩ := Attribute.Stored.text_mem_flatten_iff.mp hl
      exact hss s hs

lemma read_refused (h : read pool tracing r = .error (.invalidReference i reason) t) :
    ∃ (s : Stored) (earlier : List (Field UInt16)), s.Fits ∧
      StopsAt pool s.fields earlier i (.invalidReference i reason) r.cursor t.cursor := by
  rcases Step.bind_eq_error_iff.mp h with h | ⟨word, r₁, h₁, h⟩
  · exact absurd h (ReadRecord.lift_ne_invalidReference Read.composed_u2)
  have hs₁ := (ReadRecord.u2_ok_iff.mp h₁).1
  rcases Step.bind_eq_error_iff.mp h with h | ⟨name, r₂, h₂, h⟩
  · obtain ⟨hs, he⟩ := ReadRecord.text_refused h
    refine ⟨⟨word, i, 0, []⟩, [.plain (toBytes 2 word.toNat)], ⟨by simp, by simp⟩, ?_⟩
    exact ⟨⟨_, rfl⟩, Cursor.spans_append_of hs₁ hs, by simp, he⟩
  obtain ⟨j, hj, hs₂, _⟩ := ReadRecord.text_ok_iff.mp h₂
  have hname : ∃ text, pool.textAt j = .ok text := ⟨name, Pool.textAt_ok_iff.mpr hj⟩
  rcases Step.bind_eq_error_iff.mp h with h | ⟨descriptor, r₃, h₃, h⟩
  · obtain ⟨hs, he⟩ := ReadRecord.text_refused h
    refine ⟨⟨word, j, i, []⟩, [.plain (toBytes 2 word.toNat), .text j], ⟨by simp, by simp⟩, ?_⟩
    refine ⟨⟨_, rfl⟩, ?_, by simpa using hname, he⟩
    exact Cursor.spans_append_of (Cursor.spans_append_of hs₁ hs₂) hs
  obtain ⟨k, hk, hs₃, _⟩ := ReadRecord.text_ok_iff.mp h₃
  have hdescriptor : ∃ text, pool.textAt k = .ok text := ⟨descriptor, Pool.textAt_ok_iff.mpr hk⟩
  rcases Step.bind_eq_error_iff.mp h with h | ⟨count, r₄, h₄, h⟩
  · exact absurd h (ReadRecord.lift_ne_invalidReference Read.composed_u2)
  have hs₄ := (ReadRecord.u2_ok_iff.mp h₄).1
  rcases Step.bind_eq_error_iff.mp h with h | ⟨_, r₅, h₅, h⟩
  · cases h
  have hs₅ := (ReadRecord.trace_ok_iff.mp h₅).1
  rcases Step.bind_eq_error_iff.mp h with h | ⟨as, r₆, h₆, h⟩
  · obtain ⟨ss, hn, hf, hss, hs, he⟩ := Attribute.readAll_refused h
    have hcount : count.toNat ≤ maxAttributes := Nat.le_of_lt_succ count.toNat_lt
    have hspans := Cursor.spans_append_of hs₁ (Cursor.spans_append_of hs₂ (Cursor.spans_append_of
      hs₃ (Cursor.spans_append_of hs₄ (Cursor.spans_append_of hs₅ hs))))
    exact Stored.exists_stopsAt_attribute hf hn hcount hname hdescriptor hss hspans he
  · cases h

end Method

open ReadRecord

theorem reads_located (pool : Pool) (tracing : Tracing) (hs : start ≤ data.length) :
    Read.Located Error.IsMalformed data start Constant.read ∧
    Read.Located Error.IsMalformed data start Pool.read ∧
    Read.Located Error.IsInvalidReference data start (quietly (Attribute.read pool tracing)) ∧
    Read.Located Error.IsInvalidReference data start (quietly (Method.read pool tracing)) ∧
    (∀ i reason d, quietly (Attribute.read pool tracing) (.startAt data start) =
        .error (.invalidReference i reason) d →
      Refused pool (Attribute.Stored.fields '' {s | s.Fits}) data start i
        (.invalidReference i reason) d) ∧
    (∀ i reason d, quietly (Method.read pool tracing) (.startAt data start) =
        .error (.invalidReference i reason) d →
      Refused pool (Method.Stored.fields '' {s | s.Fits}) data start i
        (.invalidReference i reason) d) := by
  have hmalformed : ∀ offset needed available,
      ¬ Error.IsMalformed (.outOfBounds offset needed available) := nofun
  have hinvalid : ∀ offset needed available,
      ¬ Error.IsInvalidReference (.outOfBounds offset needed available) := nofun
  refine ⟨?_, ?_, ?_, ?_, ?_, ?_⟩
  · exact Read.located Constant.composed_read.walks Constant.composed_read.faults hmalformed hs
  · exact Read.located Pool.composed_read.walks Pool.composed_read.faults hmalformed hs
  · have hc := Attribute.composed_read pool tracing
    exact Read.located hc.walks hc.faults hinvalid hs
  · have hc := Method.composed_read pool tracing
    exact Read.located hc.walks hc.faults hinvalid hs
  · intro i reason d h
    obtain ⟨shown, h⟩ := quietly_error_iff.mp h
    obtain ⟨hspans, he⟩ := Attribute.read_refused h
    have hstops : StopsAt pool (Attribute.Stored.fields ⟨i, []⟩) [] i (.invalidReference i reason)
        (.startAt data start) d := ⟨⟨_, rfl⟩, hspans, by simp, he⟩
    exact .of_stopsAt ⟨_, Nat.zero_le _, rfl⟩ hstops
  · intro i reason d h
    obtain ⟨shown, h⟩ := quietly_error_iff.mp h
    obtain ⟨s, earlier, hf, hstops⟩ := Method.read_refused h
    exact .of_stopsAt ⟨s, hf, rfl⟩ hstops

def dangling : List UInt8 :=
  [0xFF, 0x00, 0x01, 0, 1, 0, 2, 0, 2, 0, 1, 0, 0, 0, 1, 0xAB, 0, 3, 0xCD]

theorem reads_located_dangling :
    1 ≤ dangling.length ∧
    quietly (Method.read .doubled .silent) (.startAt dangling 1) =
      .error (.invalidReference 3 (.outOfRange 2)) ⟨18, [0xCD]⟩ ∧
    Refused .doubled (Method.Stored.fields '' {s | s.Fits}) dangling 1 3
      (.invalidReference 3 (.outOfRange 2)) ⟨18, [0xCD]⟩ := by
  have hs : 1 ≤ dangling.length := by decide
  have h : quietly (Method.read .doubled .silent) (.startAt dangling 1) =
      .error (.invalidReference 3 (.outOfRange 2)) ⟨18, [0xCD]⟩ := rfl
  obtain ⟨_, _, _, _, _, hrefused⟩ := reads_located .doubled .silent hs
  exact ⟨hs, h, hrefused _ _ _ h⟩

end ClassFile
