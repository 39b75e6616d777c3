import ClassFile.Proofs.Descriptor.Grammar

namespace ClassFile

def IsSegment (segment : List Char) : Prop :=
  segment ≠ [] ∧ ∀ c ∈ segment, c ∉ ['.', ';', '[', '/']

inductive BaseType.IsWord : List Char → Prop
  | letter {c : Char} : c ∈ ['B', 'C', 'D', 'F', 'I', 'J', 'S', 'Z'] → IsWord [c]
  | className {segments : List (List Char)} : segments ≠ [] →
      (∀ segment ∈ segments, IsSegment segment) →
      IsWord ('L' :: ['/'].intercalate segments ++ [';'])

inductive FieldType.IsWord : List Char → Prop
  | of {dimensions : Nat} {base : List Char} : dimensions ≤ 255 → BaseType.IsWord base →
      IsWord (List.replicate dimensions '[' ++ base)

inductive Descriptor.IsWord : List Char → Prop
  | of {params : List (List Char)} {ret : List Char} : (∀ word ∈ params, FieldType.IsWord word) →
      ret = ['V'] ∨ FieldType.IsWord ret → IsWord ('(' :: params.flatten ++ ')' :: ret)

variable {word name : List Char}

lemma not_mem_of_mem_splitOn {α : Type} [BEq α] [LawfulBEq α] {sep : α} {piece l : List α}
    (h : piece ∈ l.splitOn sep) : sep ∉ piece := by
  induction l generalizing piece with
  | nil =>
    obtain rfl := List.mem_singleton.mp h
    exact List.not_mem_nil
  | cons x l ih =>
    rw [List.splitOn_cons_eq_if_modifyHead] at h
    split_ifs at h with hx
    · rcases List.mem_cons.mp h with rfl | h
      · exact List.not_mem_nil
      · exact ih h
    · cases hl : l.splitOn sep with
      | nil => exact absurd hl (List.splitOn_ne_nil sep l)
      | cons first others =>
        rw [hl] at h
        rcases List.mem_cons.mp h with rfl | h
        · have hfirst : sep ∉ first := ih (by rw [hl]; exact List.mem_cons_self)
          rw [List.mem_cons, not_or]
          exact ⟨fun hsep => hx (by simp [hsep]), hfirst⟩
        · exact ih (by rw [hl]; exact List.mem_cons_of_mem _ h)

lemma isClassName_iff_segments :
    IsClassName name ↔ ∃ segments : List (List Char), segments ≠ [] ∧
      (∀ segment ∈ segments, IsSegment segment) ∧ ['/'].intercalate segments = name := by
  -- Anything but a slash is in the name exactly if it is in a segment.
  have hmem : ∀ {c : Char}, c ≠ '/' → (c ∈ name ↔ ∃ s ∈ name.splitOn '/', c ∈ s) :=
    fun h => mem_iff_exists_splitOn h name
  have hdot := hmem (by decide : '.' ≠ '/')
  have hsemi := hmem (by decide : ';' ≠ '/')
  have hbracket := hmem (by decide : '[' ≠ '/')
  constructor
  · rintro ⟨hnd, hns, hnb, hne⟩
    refine ⟨name.splitOn '/', List.splitOn_ne_nil '/' name, fun segment hs => ⟨hne segment hs, ?_⟩,
      List.intercalate_splitOn '/'⟩
    rintro c hc hbad
    simp only [List.mem_cons, List.not_mem_nil, or_false] at hbad
    rcases hbad with rfl | rfl | rfl | rfl
    · exact hnd (hdot.mpr ⟨segment, hs, hc⟩)
    · exact hns (hsemi.mpr ⟨segment, hs, hc⟩)
    · exact hnb (hbracket.mpr ⟨segment, hs, hc⟩)
    · exact not_mem_of_mem_splitOn hs hc
  · rintro ⟨segments, hne, hseg, rfl⟩
    have hsplit : (['/'].intercalate segments).splitOn '/' = segments :=
      List.splitOn_intercalate '/' (fun s hs hslash => (hseg s hs).2 _ hslash (by simp)) hne
    rw [IsClassName, hdot, hsemi, hbracket, hsplit]
    have hfree : ∀ c ∈ ['.', ';', '[', '/'], ¬ ∃ s ∈ segments, c ∈ s := by
      rintro c hbad ⟨s, hs, hc⟩
      exact (hseg s hs).2 c hc hbad
    exact ⟨hfree _ (by simp), hfree _ (by simp), hfree _ (by simp), fun s hs => (hseg s hs).1⟩

lemma Primitive.mem_letters_iff {c : Char} :
    c ∈ ['B', 'C', 'D', 'F', 'I', 'J', 'S', 'Z'] ↔ ∃ p : Primitive, p.letter = c := by
  change c ∈ all.map letter ↔ _
  simp [mem_all]

lemma BaseType.isWord_iff :
    IsWord word ↔ ∃ type : BaseType, type.WellFormed ∧ type.chars = word := by
  constructor
  · intro h
    cases h with
    | letter hc =>
      obtain ⟨p, rfl⟩ := Primitive.mem_letters_iff.mp hc
      exact ⟨.primitive p, trivial, rfl⟩
    | @className segments hne hseg =>
      refine ⟨.object (.ofList (['/'].intercalate segments)), ?_, by simp [chars]⟩
      rw [WellFormed, String.toList_ofList]
      exact isClassName_iff_segments.mpr ⟨segments, hne, hseg, rfl⟩
  · rintro ⟨type, hwf, rfl⟩
    cases type with
    | primitive p => exact .letter (Primitive.mem_letters_iff.mpr ⟨p, rfl⟩)
    | object name =>
      obtain ⟨segments, hne, hseg, hname⟩ := isClassName_iff_segments.mp hwf
      rw [chars, ← hname]
      exact .className hne hseg

lemma FieldType.isWord_iff :
    IsWord word ↔ ∃ type : FieldType, type.WellFormed ∧ type.chars = word := by
  constructor
  · rintro ⟨hle, hbase⟩
    obtain ⟨base, hwf, rfl⟩ := BaseType.isWord_iff.mp hbase
    exact ⟨⟨base, _⟩, ⟨hle, hwf⟩, rfl⟩
  · rintro ⟨type, ⟨hle, hwf⟩, rfl⟩
    exact .of hle (BaseType.isWord_iff.mpr ⟨type.base, hwf, rfl⟩)

lemma FieldType.exists_types {words : List (List Char)} (h : ∀ word ∈ words, IsWord word) :
    ∃ types : List FieldType, (∀ type ∈ types, type.WellFormed) ∧ types.map chars = words := by
  induction words with
  | nil => exact ⟨[], by simp, rfl⟩
  | cons word words ih =>
    rw [List.forall_mem_cons] at h
    obtain ⟨type, hwf, rfl⟩ := isWord_iff.mp h.1
    obtain ⟨types, hall, rfl⟩ := ih h.2
    exact ⟨type :: types, List.forall_mem_cons.mpr ⟨hwf, hall⟩, rfl⟩

namespace Descriptor

lemma isWord_iff : IsWord word ↔ ∃ d : Descriptor, d.WellFormed ∧ d.chars = word := by
  constructor
  · rintro ⟨hparams, hret⟩
    obtain ⟨params, hall, rfl⟩ := FieldType.exists_types hparams
    rcases hret with rfl | hret
    · exact ⟨⟨params, none⟩, ⟨hall, nofun⟩, rfl⟩
    · obtain ⟨type, hwf, rfl⟩ := FieldType.isWord_iff.mp hret
      exact ⟨⟨params, some type⟩, ⟨hall, by simpa using hwf⟩, rfl⟩
  · rintro ⟨d, ⟨hparams, hret⟩, rfl⟩
    refine @IsWord.of (d.params.map FieldType.chars) (returnChars d.ret) ?_ ?_
    · rw [List.forall_mem_map]
      exact fun type htype => FieldType.isWord_iff.mpr ⟨type, hparams type htype, rfl⟩
    · cases hd : d.ret with
      | none => exact .inl rfl
      | some type => exact .inr (FieldType.isWord_iff.mpr ⟨type, hret type hd, rfl⟩)

lemma isWord_iff_parse {text : String} : IsWord text.toList ↔ ∃ d, parse text = .ok d := by
  have hrender : ∀ d : Descriptor, d.chars = text.toList ↔ d.render = text := by
    intro d
    rw [← String.toList_inj, render, String.toList_ofList]
  simp only [isWord_iff, parse_ok_iff, hrender]

end Descriptor

end ClassFile
