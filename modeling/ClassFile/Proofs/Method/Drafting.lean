import ClassFile.Method.Draft
import ClassFile.Proofs.Flags.Word
import Mathlib.Data.List.DropRight

/-! What is built from a list of edits depends on the last replacement of the flags, on the words
that are added after it and on the attributes. -/

namespace ClassFile

lemma Flags.visibilityCount_normalized (flags : Flags) : flags.normalized.visibilityCount ≤ 1 := by
  cases hpublic : flags.isPublic <;> cases hprivate : flags.isPrivate <;>
    cases hprotected : flags.isProtected <;>
    simp [normalized, visibilityCount, hpublic, hprivate, hprotected]

namespace Method

namespace Edit

def replacement? : Edit → Option UInt16
  | setWord word => some word
  | setFlags flags => some flags.word
  | addWord _ | addAttribute _ | addAttributes _ => none

def addition? : Edit → Option UInt16
  | addWord word => some word
  | setWord _ | setFlags _ | addAttribute _ | addAttributes _ => none

def attributes : Edit → List Attribute
  | addAttribute a => [a]
  | addAttributes attributes => attributes
  | setWord _ | addWord _ | setFlags _ => []

def isOnFlags (edit : Edit) : Bool := edit.replacement?.isSome || edit.addition?.isSome

variable {edit : Edit}

lemma addition?_eq_some_iff {word : UInt16} :
    edit.addition? = some word ↔ edit = .addWord word := by
  cases edit <;> simp [addition?]

end Edit

namespace Draft

variable {name descriptor : String} {edits edits' block block' : List Edit} {edit : Edit}
  {words words' : List UInt16} {w : UInt16}

section Words

def union (words : List UInt16) (w : UInt16) : UInt16 := words.foldl (· ||| ·) w

lemma testBit_union {k : Nat} :
    (union words w).toNat.testBit k = (w.toNat.testBit k || words.any (·.toNat.testBit k)) := by
  induction words generalizing w with
  | nil => simp [union]
  | cons word words ih =>
    rw [union, List.foldl_cons, ← union, ih, UInt16.toNat_or, Nat.testBit_or, List.any_cons,
      Bool.or_assoc]

lemma union_congr (h : ∀ word, word ∈ words ↔ word ∈ words') : union words w = union words' w := by
  apply UInt16.toNat_inj.mp
  apply Nat.eq_of_testBit_eq
  intro k
  rw [testBit_union, testBit_union]
  congr 1
  apply Bool.eq_iff_iff.mpr
  simp only [List.any_eq_true, h]

end Words

def base (edits : List Edit) : UInt16 :=
  ((edits.filterMap Edit.replacement?).getLast?).getD Flag.accPublic.bit

def additions (edits : List Edit) : List UInt16 :=
  (edits.rtakeWhile fun edit => edit.replacement?.isNone).filterMap Edit.addition?

def combined (edits : List Edit) : UInt16 := union (additions edits) (base edits)

section Combined

lemma combined_concat_replacement (h : edit.replacement? = some w) :
    combined (edits ++ [edit]) = w := by
  simp [combined, additions, base, union, h]

lemma combined_concat_none (h : edit.replacement? = none) :
    combined (edits ++ [edit]) = combined edits ||| edit.addition?.getD 0 := by
  cases hadd : edit.addition? <;>
    simp [combined, additions, base, union, h, hadd]

lemma combined_concat_of_not_isOnFlags (h : edit.isOnFlags = false) :
    combined (edits ++ [edit]) = combined edits := by
  obtain ⟨hreplacement, hadd⟩ : edit.replacement? = none ∧ edit.addition? = none := by
    simpa [Edit.isOnFlags] using h
  rw [combined_concat_none hreplacement, hadd, Option.getD_none, UInt16.or_zero]

lemma combined_append_congr (h : combined edits = combined edits') (after : List Edit) :
    combined (edits ++ after) = combined (edits' ++ after) := by
  -- From the end, since a replacement there makes all words before it irrelevant.
  induction after using List.reverseRecOn with
  | nil => simpa using h
  | append_singleton after edit ih =>
    rw [← List.append_assoc, ← List.append_assoc]
    cases hedit : edit.replacement? with
    | none => rw [combined_concat_none hedit, combined_concat_none hedit, ih]
    | some w => rw [combined_concat_replacement hedit, combined_concat_replacement hedit]

lemma combined_append (h : ∀ edit ∈ block, edit.replacement? = none) :
    combined (edits ++ block) = union (block.filterMap Edit.addition?) (combined edits) := by
  induction block using List.reverseRecOn with
  | nil => simp [union]
  | append_singleton block edit ih =>
    rw [← List.append_assoc, combined_concat_none (h edit (by simp)),
      ih fun edit' hedit' => h edit' (by simp [hedit'])]
    cases hadd : edit.addition? <;> simp [union, hadd]

lemma combined_filter : combined (edits.filter Edit.isOnFlags) = combined edits := by
  induction edits using List.reverseRecOn with
  | nil => rfl
  | append_singleton edits edit ih =>
    rw [List.filter_append]
    cases hedit : edit.isOnFlags with
    | true => simpa [hedit] using combined_append_congr ih [edit]
    | false => simp [hedit, combined_concat_of_not_isOnFlags, ih]

end Combined

structure Holds (name descriptor : String) (edits : List Edit) (draft : Draft) : Prop where
  name : draft.name = name
  descriptor : draft.descriptor = descriptor
  flags : draft.flags = .ofWord (combined edits)
  attributes : draft.attributes = edits.flatMap Edit.attributes

lemma holds_start : Holds name descriptor [] (start name descriptor) where
  name := rfl
  descriptor := rfl
  flags := (by decide : Flags.onlyPublic = Flags.ofWord (combined []))
  attributes := rfl

lemma attributes_apply (draft : Draft) (edit : Edit) :
    (draft.apply edit).attributes = draft.attributes ++ edit.attributes := by
  cases edit <;> simp [apply, Edit.attributes]

lemma flags_apply {draft : Draft} (h : draft.flags = .ofWord (combined edits)) :
    (draft.apply edit).flags = .ofWord (combined (edits ++ [edit])) := by
  cases edit with
  | setWord word => rw [combined_concat_replacement rfl, Draft.apply]
  | setFlags flags => rw [combined_concat_replacement rfl, Draft.apply, Flags.ofWord_word]
  | addWord word =>
    -- The bits without a flag are lost before the union or after it, with the same result.
    apply Flags.ext_has
    intro f
    rw [combined_concat_none rfl, Draft.apply, h]
    simp only [Flags.ofWord, Flags.has_ofPred, Flag.isIn_or, Flags.isIn_word, Edit.addition?,
      Option.getD_some]
  | addAttribute a => rw [combined_concat_of_not_isOnFlags rfl, Draft.apply, h]
  | addAttributes attributes => rw [combined_concat_of_not_isOnFlags rfl, Draft.apply, h]

lemma Holds.apply {draft : Draft} (h : Holds name descriptor edits draft) :
    Holds name descriptor (edits ++ [edit]) (draft.apply edit) where
  name := by cases edit <;> exact h.name
  descriptor := by cases edit <;> exact h.descriptor
  flags := flags_apply h.flags
  attributes := by rw [attributes_apply, h.attributes, List.flatMap_append, List.flatMap_singleton]

lemma holds_applyAll : Holds name descriptor edits ((start name descriptor).applyAll edits) := by
  induction edits using List.reverseRecOn with
  | nil => exact holds_start
  | append_singleton edits edit ih =>
    rw [applyAll, List.foldl_append]
    exact ih.apply

end Draft

open Draft

def ofEdits (name descriptor : String) (edits : List Edit) : Method :=
  ((Draft.start name descriptor).applyAll edits).build

lemma ofEdits_eq (name descriptor : String) (edits : List Edit) :
    ofEdits name descriptor edits = ⟨name, descriptor, (Flags.ofWord (combined edits)).normalized,
      edits.flatMap Edit.attributes⟩ := by
  have h : Draft.Holds name descriptor edits _ := holds_applyAll
  rw [ofEdits, Draft.build, ofParts, h.name, h.descriptor, h.flags, h.attributes]

theorem ofEdits_accumulates (name descriptor : String) (edits : List Edit) :
    ((ofEdits name descriptor edits).name = name ∧
      (ofEdits name descriptor edits).descriptor = descriptor ∧
      (ofEdits name descriptor edits).attributes = edits.flatMap Edit.attributes ∧
      (ofEdits name descriptor edits).flags.word = Flags.canonicalWord (combined edits) ∧
      (ofEdits name descriptor edits).flags.visibilityCount ≤ 1) ∧
    (∀ edits', edits.filter Edit.isOnFlags = edits'.filter Edit.isOnFlags →
      edits.flatMap Edit.attributes = edits'.flatMap Edit.attributes →
      ofEdits name descriptor edits = ofEdits name descriptor edits') ∧
    ∀ block block' after, (∀ edit ∈ block ++ block', edit.replacement? = none) →
      (∀ word, .addWord word ∈ block ↔ .addWord word ∈ block') →
      block.flatMap Edit.attributes = block'.flatMap Edit.attributes →
      ofEdits name descriptor (edits ++ block ++ after) =
        ofEdits name descriptor (edits ++ block' ++ after) := by
  refine ⟨?_, ?_, ?_⟩
  · rw [ofEdits_eq]
    exact ⟨rfl, rfl, rfl, Flags.word_normalized_ofWord, Flags.visibilityCount_normalized _⟩
  · intro edits' hflags hattributes
    rw [ofEdits_eq, ofEdits_eq, ← combined_filter, hflags, combined_filter, hattributes]
  · intro block block' after hfree hwords hattributes
    have hadded : ∀ word, word ∈ block.filterMap Edit.addition? ↔
        word ∈ block'.filterMap Edit.addition? := by
      simpa [List.mem_filterMap, Edit.addition?_eq_some_iff] using hwords
    have hcombined : combined (edits ++ block) = combined (edits ++ block') := by
      rw [combined_append fun edit h => hfree edit (List.mem_append_left _ h),
        combined_append fun edit h => hfree edit (List.mem_append_right _ h)]
      exact union_congr hadded
    rw [ofEdits_eq, ofEdits_eq, combined_append_congr hcombined after]
    simp [hattributes]

def widened : List Edit :=
  [.addWord 0x2002, .setWord 0xE404, .addAttribute ⟨"Code", [1]⟩, .addWord 0x0009,
    .addAttributes [⟨"Signature", []⟩, ⟨"Code", []⟩]]

theorem ofEdits_accumulates_widened :
    (ofEdits "run" "()V" widened).flags.word = 0x040C ∧
      (ofEdits "run" "()V" widened).attributes =
        [⟨"Code", [1]⟩, ⟨"Signature", []⟩, ⟨"Code", []⟩] ∧
      ofEdits "run" "()V" widened = ofEdits "run" "()V"
        [.addAttribute ⟨"Code", [1]⟩, .addWord 0x2002,
          .addAttributes [⟨"Signature", []⟩, ⟨"Code", []⟩], .setWord 0xE404, .addWord 0x0009] ∧
      ofEdits "run" "()V" (widened ++ [.addWord 0x0010, .addWord 0x2002] ++ [.addWord 0x1000]) =
        ofEdits "run" "()V"
          (widened ++ [.addWord 0x2002, .addWord 0x0010, .addWord 0x2002] ++
            [.addWord 0x1000]) := by
  obtain ⟨⟨-, -, hattributes, hword, -⟩, hcommute, hreorder⟩ :=
    ofEdits_accumulates "run" "()V" widened
  have hfree : ∀ edit ∈ [Edit.addWord 0x0010, .addWord 0x2002] ++
      [.addWord 0x2002, .addWord 0x0010, .addWord 0x2002], edit.replacement? = none := by
    simp [Edit.replacement?]
  refine ⟨hword.trans (by decide), hattributes, hcommute _ rfl rfl, hreorder _ _ _ hfree ?_ rfl⟩
  simp [or_comm]

end Method

end ClassFile
