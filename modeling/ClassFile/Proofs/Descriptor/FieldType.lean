import ClassFile.Descriptor.Parser
import ClassFile.Proofs.Spans
import ClassFile.Proofs.Text.Utf8

namespace ClassFile

open Text

lemma mem_iff_exists_splitOn {α : Type} [BEq α] [LawfulBEq α] {a sep : α} (h : a ≠ sep)
    (l : List α) : a ∈ l ↔ ∃ s ∈ l.splitOn sep, a ∈ s := by
  induction l with
  | nil => simp [List.splitOn]
  | cons x l ih =>
    rw [List.splitOn_cons_eq_if_modifyHead]
    split_ifs with hx
    · obtain rfl := eq_of_beq hx
      simp [h, ih]
    · cases hs : l.splitOn sep with
      | nil => exact absurd hs (List.splitOn_ne_nil sep l)
      | cons s ss => simp [hs, ih, or_assoc]

namespace Primitive

variable {p : Primitive} {b : UInt8}

lemma ofLetter?_eq_some_iff : ofLetter? b = some p ↔ b = p.letter.toUInt8 := by
  constructor
  · intro h
    have := List.find?_some h
    simpa [eq_comm] using this
  · rintro rfl
    cases p <;> rfl

end Primitive

namespace Descriptor.Parser

variable {whole name : String} {c d : Cursor}

lemma isClassName_iff : isClassName name ∧ ';' ∉ name.toList ↔ IsClassName name.toList := by
  have hseg : isClassName name ↔ ∀ s ∈ name.toList.splitOn '/', s ≠ [] ∧ '.' ∉ s ∧ '[' ∉ s := by
    simp [isClassName, and_assoc]
  have hdot := mem_iff_exists_splitOn (by decide : '.' ≠ '/') name.toList
  have hbracket := mem_iff_exists_splitOn (by decide : '[' ≠ '/') name.toList
  rw [hseg]
  constructor
  · rintro ⟨hs, hsemi⟩
    refine ⟨fun h => ?_, hsemi, fun h => ?_, fun s h => (hs s h).1⟩
    · obtain ⟨s, hmem, h⟩ := hdot.mp h
      exact (hs s hmem).2.1 h
    · obtain ⟨s, hmem, h⟩ := hbracket.mp h
      exact (hs s hmem).2.2 h
  · rintro ⟨hnd, hsemi, hnb, hne⟩
    refine ⟨fun s hmem => ⟨hne s hmem, fun h => ?_, fun h => ?_⟩, hsemi⟩
    · exact hnd (hdot.mpr ⟨s, hmem, h⟩)
    · exact hnb (hbracket.mpr ⟨s, hmem, h⟩)

lemma fail_ne_ok {α : Type} {fault : Fault} {a : α} : fail whole fault c ≠ .ok a d :=
  Step.throw_ne_ok

lemma semicolon_mem_encode : semicolon ∈ Utf8.encode name ↔ ';' ∈ name.toList :=
  Utf8.toUInt8_mem_encodeChars (by decide)

lemma scan_ok_iff {bytes : List UInt8} {b : UInt8} (h : d.rest.head? = some b) :
    Read.takeWhile (fun b => b ≠ semicolon) c = .ok bytes d ↔
      b = semicolon ∧ semicolon ∉ bytes ∧ c.Spans bytes d := by
  have hall : (∀ x ∈ bytes, decide (x ≠ semicolon)) ↔ semicolon ∉ bytes := by
    simp only [decide_eq_true_iff]
    exact List.forall_mem_ne'
  rw [Read.takeWhile_ok_iff, hall, h]
  simp [and_left_comm]

lemma className_ok_iff :
    className whole c = .ok name d ↔
      IsClassName name.toList ∧ c.Spans (Utf8.encode name ++ [semicolon]) d := by
  rw [className, ← isClassName_iff, Cursor.spans_append]
  simp only [Step.bind_eq_ok_iff, Read.position_ok_iff, Read.peek?_ok_iff]
  constructor
  · rintro ⟨start, _, ⟨_, rfl⟩, bytes, m, hscan, next, _, ⟨rfl, rfl⟩, h⟩
    cases hm : m.rest.head? with
    | none =>
      rw [hm] at h
      exact absurd h fail_ne_ok
    | some b =>
      rw [hm] at h
      obtain ⟨rfl, hsemi, hs⟩ := (scan_ok_iff hm).mp hscan
      cases hd : Utf8.decode? bytes with
      | none =>
        rw [hd] at h
        exact absurd h fail_ne_ok
      | some text =>
        rw [hd] at h
        dsimp only at h
        obtain rfl := Utf8.decode?_eq_some_iff.mp hd
        split_ifs at h with hclass
        · obtain ⟨x, _, hx, h⟩ := Step.bind_eq_ok_iff.mp h
          obtain ⟨rfl, rfl⟩ := Step.pure_eq_ok_iff.mp h
          have hx := Read.byte_ok_iff.mp hx
          obtain rfl := hx.eq_of_head? hm
          -- The check does not look for semicolons: the scan stopped at the first one.
          exact ⟨⟨hclass, semicolon_mem_encode.not.mp hsemi⟩, m, hs, hx⟩
        · exact absurd h fail_ne_ok
  · rintro ⟨⟨hclass, hsemi⟩, m, hm, hs⟩
    have hhead := hs.head?_rest rfl
    have hscan := (scan_ok_iff hhead).mpr ⟨rfl, semicolon_mem_encode.not.mpr hsemi, hm⟩
    refine ⟨c.pos, c, ⟨rfl, rfl⟩, _, m, hscan, some semicolon, m, ⟨hhead.symm, rfl⟩, ?_⟩
    rw [Utf8.decode?_encode]
    dsimp only
    rw [if_pos hclass]
    exact Step.bind_eq_ok_iff.mpr ⟨_, d, Read.byte_ok_iff.mpr hs, rfl⟩

lemma encodeChars_primitive (p : Primitive) :
    Utf8.encodeChars (BaseType.primitive p).chars = [p.letter.toUInt8] := by
  have h : Utf8.IsAscii p.letter := by cases p <;> decide
  rw [BaseType.chars, Utf8.encodeChars_cons h, Utf8.encodeChars_nil]

lemma encodeChars_object (name : String) :
    Utf8.encodeChars (BaseType.object name).chars =
      [objectLetter] ++ (Utf8.encode name ++ [semicolon]) := by
  rw [BaseType.chars, List.cons_append, Utf8.encodeChars_cons (by decide), Utf8.encodeChars_append]
  rfl

lemma baseType_ok_iff {type : BaseType} :
    baseType whole c = .ok type d ↔
      type.WellFormed ∧ c.Spans (Utf8.encodeChars type.chars) d := by
  rw [baseType]
  simp only [Step.bind_eq_ok_iff, Read.position_ok_iff, Read.peek?_ok_iff]
  constructor
  · rintro ⟨pos, _, ⟨_, rfl⟩, next, _, ⟨rfl, rfl⟩, h⟩
    cases hc : c.rest.head? with
    | none =>
      rw [hc] at h
      exact absurd h fail_ne_ok
    | some byte =>
      rw [hc] at h
      obtain ⟨x, m, hx, h⟩ := Step.bind_eq_ok_iff.mp h
      have hx := Read.byte_ok_iff.mp hx
      obtain rfl := hx.eq_of_head? hc
      cases hp : Primitive.ofLetter? x with
      | some p =>
        rw [hp] at h
        obtain ⟨rfl, rfl⟩ := Step.pure_eq_ok_iff.mp h
        obtain rfl := Primitive.ofLetter?_eq_some_iff.mp hp
        exact ⟨trivial, by rwa [encodeChars_primitive]⟩
      | none =>
        rw [hp] at h
        dsimp only at h
        split_ifs at h with hobject
        · obtain ⟨name, _, hname, h⟩ := Step.bind_eq_ok_iff.mp h
          obtain ⟨rfl, rfl⟩ := Step.pure_eq_ok_iff.mp h
          obtain ⟨hclass, hs⟩ := className_ok_iff.mp hname
          subst hobject
          exact ⟨hclass, by rw [encodeChars_object]; exact Cursor.spans_append_of hx hs⟩
        · exact absurd h fail_ne_ok
  · rintro ⟨hwf, hs⟩
    refine ⟨c.pos, c, ⟨rfl, rfl⟩, c.rest.head?, c, ⟨rfl, rfl⟩, ?_⟩
    cases type with
    | primitive p =>
      rw [encodeChars_primitive] at hs
      rw [hs.head?_rest rfl]
      refine Step.bind_eq_ok_iff.mpr ⟨_, d, Read.byte_ok_iff.mpr hs, ?_⟩
      rw [Primitive.ofLetter?_eq_some_iff.mpr rfl]
      rfl
    | object name =>
      rw [encodeChars_object] at hs
      obtain ⟨m, hx, hs⟩ := Cursor.spans_append.mp hs
      rw [hx.head?_rest rfl]
      refine Step.bind_eq_ok_iff.mpr ⟨_, m, Read.byte_ok_iff.mpr hx, ?_⟩
      exact Step.bind_eq_ok_iff.mpr ⟨name, d, className_ok_iff.mpr ⟨hwf, hs⟩, rfl⟩

lemma head?_baseType (type : BaseType) :
    ∃ b, (Utf8.encodeChars type.chars).head? = some b ∧ b ∉ [bracket, closing, voidLetter] := by
  cases type with
  | primitive p =>
    rw [encodeChars_primitive]
    exact ⟨_, rfl, by cases p <;> decide⟩
  | object name =>
    rw [encodeChars_object]
    exact ⟨_, rfl, by decide⟩

lemma encodeChars_brackets (n : Nat) :
    Utf8.encodeChars (List.replicate n '[') = List.replicate n bracket := by
  induction n with
  | zero => rfl
  | succ n ih =>
    rw [List.replicate_succ, Utf8.encodeChars_cons (by decide), ih]
    rfl

lemma fieldType_ok_iff {type : FieldType} :
    fieldType whole c = .ok type d ↔
      type.WellFormed ∧ c.Spans (Utf8.encodeChars type.chars) d := by
  rw [fieldType, FieldType.chars, Utf8.encodeChars_append, encodeChars_brackets,
    Cursor.spans_append]
  simp only [fail, Step.bind_eq_ok_iff, Step.check_eq_ok_iff, Read.takeWhile_ok_iff,
    baseType_ok_iff, Step.pure_eq_ok_iff]
  constructor
  · rintro ⟨brackets, m, ⟨hall, _, hs⟩, hle, base, _, ⟨hwf, hs'⟩, rfl, rfl⟩
    have hb : brackets = List.replicate brackets.length bracket :=
      List.eq_replicate_of_mem fun b hb => by simpa using hall b hb
    exact ⟨⟨Nat.not_lt.mp hle, hwf⟩, m, hb ▸ hs, hs'⟩
  · rintro ⟨⟨hle, hwf⟩, m, hs, hs'⟩
    obtain ⟨b, hb, hne⟩ := head?_baseType type.base
    refine ⟨_, m, ⟨?_, ?_, hs⟩, ?_, type.base, d, ⟨hwf, hs'⟩, ?_, rfl⟩
    · simp
    · rw [hs'.head?_rest hb]
      simp_all
    · simpa using hle
    · simp

lemma head?_fieldType (type : FieldType) :
    ∃ b, (Utf8.encodeChars type.chars).head? = some b ∧ b ∉ [closing, voidLetter] := by
  rw [FieldType.chars, Utf8.encodeChars_append, encodeChars_brackets]
  cases type.dimensions with
  | zero =>
    obtain ⟨b, hb, hne⟩ := head?_baseType type.base
    exact ⟨b, hb, fun h => hne (List.mem_cons_of_mem _ h)⟩
  | succ n => exact ⟨bracket, rfl, by decide⟩

end Descriptor.Parser

end ClassFile
