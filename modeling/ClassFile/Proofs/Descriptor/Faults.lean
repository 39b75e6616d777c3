import ClassFile.Proofs.Descriptor.Grammar
import ClassFile.Proofs.Step.Fault

/-! Where the descriptor parser gets stuck, and what it has read until then. -/

namespace ClassFile.Descriptor.Parser

open Text

variable {whole : String} {c d : Cursor} {e : Error} {fault : Fault} {α : Type}

def StartsBase (b : UInt8) : Prop := (Primitive.ofLetter? b).isSome ∨ b = objectLetter

inductive InName : Fault → Prop
  | unterminated (pos : Nat) : InName (.unterminatedName pos)
  | broken (pos : Nat) : InName (.brokenCharacter pos)
  | bad (name : String) : InName (.badName name)

inductive BaseFault (start : Nat) : List UInt8 → Fault → Prop
  | ends : BaseFault start [] .endsInType
  | letter {b : UInt8} {after : List UInt8} : ¬ StartsBase b →
      BaseFault start (b :: after) (.badLetter b start)
  | name {b : UInt8} {after : List UInt8} {fault : Fault} : InName fault →
      BaseFault start (b :: after) fault

inductive TypeFault (start : Nat) : List UInt8 → Fault → Prop
  | tooMany {n : Nat} {after : List UInt8} : FieldType.maxDimensions < n →
      after.head? ≠ some bracket →
      TypeFault start (List.replicate n bracket ++ after) (.tooManyDimensions n)
  | base {n : Nat} {after : List UInt8} {fault : Fault} : n ≤ FieldType.maxDimensions →
      after.head? ≠ some bracket → BaseFault (start + n) after fault →
      TypeFault start (List.replicate n bracket ++ after) fault

def Reports (whole : String) (found : Fault → Prop) (e : Error) : Prop :=
  ∃ fault, e = .malformed (.descriptor whole fault) ∧ found fault

variable {found other : Fault → Prop}

lemma Reports.of_fail (h : (fail whole fault : Read α) c = .error e d) (hf : found fault) :
    Reports whole found e := by
  cases h
  exact ⟨fault, rfl, hf⟩

lemma Reports.imp (h : Reports whole found e) (hf : ∀ fault, found fault → other fault) :
    Reports whole other e := by
  obtain ⟨fault, he, hfound⟩ := h
  exact ⟨fault, he, hf fault hfound⟩

lemma u1_of_head? {b : UInt8} (h : c.rest.head? = some b) : Read.u1 c = .ok b (c.advance 1) := by
  refine Read.byte_ok_iff.mpr ⟨?_, rfl⟩
  obtain ⟨rest, hr⟩ := List.head?_eq_some_iff.mp h
  rw [hr, Cursor.advance, hr]
  rfl

lemma takeWhile_bind {p : UInt8 → Bool} {f : List UInt8 → Read α} :
    (Read.takeWhile p >>= f) c =
      f (c.rest.takeWhile p) (c.advance (c.rest.takeWhile p).length) := rfl

lemma position_bind {f : Nat → Read α} : (Read.position >>= f) c = f c.pos c := rfl

lemma className_error (h : className whole c = .error e d) : Reports whole InName e := by
  rw [className, position_bind, takeWhile_bind, Read.peek?_bind] at h
  set m := c.advance (c.rest.takeWhile fun b => b ≠ semicolon).length
  cases hhead : m.rest.head? with
  | none =>
    rw [hhead] at h
    exact .of_fail h (.unterminated _)
  | some b =>
    rw [hhead] at h
    cases hd : Utf8.decode? (c.rest.takeWhile fun b => b ≠ semicolon) with
    | none =>
      rw [hd] at h
      exact .of_fail h (.broken _)
    | some name =>
      rw [hd] at h
      dsimp only at h
      split_ifs at h
      · rw [Step.bind_of_ok (u1_of_head? hhead)] at h
        exact absurd h Step.pure_ne_error
      · exact .of_fail h (.bad _)

lemma baseType_error (h : baseType whole c = .error e d) :
    Reports whole (BaseFault c.pos c.rest) e := by
  rw [baseType, position_bind, Read.peek?_bind] at h
  cases hrest : c.rest with
  | nil =>
    rw [hrest] at h
    exact .of_fail h .ends
  | cons b after =>
    have hhead : c.rest.head? = some b := by rw [hrest]; rfl
    rw [hhead] at h
    dsimp only at h
    rw [Step.bind_of_ok (u1_of_head? hhead)] at h
    cases hletter : Primitive.ofLetter? b with
    | some p =>
      rw [hletter] at h
      exact absurd h Step.pure_ne_error
    | none =>
      rw [hletter] at h
      dsimp only at h
      split_ifs at h with hobject
      · rcases Step.bind_eq_error_iff.mp h with h | ⟨name, m, -, h⟩
        · exact (className_error h).imp fun _ hname => .name hname
        · exact absurd h Step.pure_ne_error
      · refine .of_fail h (.letter ?_)
        rintro (hb | hb)
        · simp [hletter] at hb
        · exact hobject hb

lemma fieldType_error (h : fieldType whole c = .error e d) :
    Reports whole (TypeFault c.pos c.rest) e := by
  rw [fieldType] at h
  rcases Step.bind_eq_error_iff.mp h with h | ⟨brackets, m, hm, h⟩
  · cases h
  obtain ⟨hall, hhead, hs⟩ := Read.takeWhile_ok_iff.mp hm
  have hb : brackets = List.replicate brackets.length bracket :=
    List.eq_replicate_of_mem fun b hb => by simpa using hall b hb
  have hrest : c.rest = List.replicate brackets.length bracket ++ m.rest := hb ▸ hs.1
  have hhead : m.rest.head? ≠ some bracket := fun hm => by simpa using hhead _ hm
  rw [hrest]
  split at h
  · next hmany => exact .of_fail h (.tooMany hmany hhead)
  · next hfew =>
    rcases Step.bind_eq_error_iff.mp h with h | ⟨base, m', -, h⟩
    · have hbase := baseType_error h
      rw [hs.2] at hbase
      exact hbase.imp fun _ hbase => .base (Nat.not_lt.mp hfew) hhead hbase
    · exact absurd h Step.pure_ne_error

lemma params_error {done : List FieldType} (h : params whole done c = .error e d) :
    ∃ types : List FieldType, ∃ m, (∀ type ∈ types, type.WellFormed) ∧
      c.Spans (Utf8.encodeChars (types.flatMap FieldType.chars)) m ∧
      (m.rest = [] ∧ Reports whole (· = .noClosing) e ∨
        m.rest.head? ≠ some closing ∧ Reports whole (TypeFault m.pos m.rest) e) := by
  fun_induction params whole done c with
  | case1 done c hc =>
    exact ⟨[], c, by simp, Cursor.spans_nil.mpr rfl, .inl ⟨hc, .of_fail h rfl⟩⟩
  | case2 => cases h
  | case3 done c b rest hc hne e' d' hf =>
    cases h
    refine ⟨[], c, by simp, Cursor.spans_nil.mpr rfl, .inr ⟨?_, fieldType_error hf⟩⟩
    rw [hc]
    exact fun hb => hne (Option.some.inj hb)
  | case4 done c b rest hc hne type t hf _ ih =>
    obtain ⟨types, m, hwf, hs, hend⟩ := ih h
    obtain ⟨htype, ht⟩ := fieldType_ok_iff.mp hf
    refine ⟨type :: types, m, List.forall_mem_cons.mpr ⟨htype, hwf⟩, ?_, hend⟩
    rw [List.flatMap_cons, Utf8.encodeChars_append]
    exact Cursor.spans_append_of ht hs

lemma returnType_error (h : returnType whole c = .error e d) :
    c.rest.head? ≠ some voidLetter ∧ Reports whole (TypeFault c.pos c.rest) e := by
  rw [returnType, Read.peek?_bind] at h
  cases hc : c.rest.head? with
  | none =>
    rw [hc] at h
    exact ⟨by simp, fieldType_error (Step.map_eq_error_iff.mp h)⟩
  | some b =>
    rw [hc] at h
    dsimp only at h
    split_ifs at h with hvoid
    · rw [Step.bind_of_ok (u1_of_head? hc)] at h
      exact absurd h Step.pure_ne_error
    · exact ⟨fun hb => hvoid (Option.some.inj hb), fieldType_error (Step.map_eq_error_iff.mp h)⟩

/-- A descriptor may begin with `before`, and a type or else `stop` stands behind it. -/
inductive Awaits : (before : List UInt8) → (stop : UInt8) → Prop
  | param {types : List FieldType} : (∀ type ∈ types, type.WellFormed) →
      Awaits ([opening] ++ Utf8.encodeChars (types.flatMap FieldType.chars)) closing
  | ret {types : List FieldType} : (∀ type ∈ types, type.WellFormed) →
      Awaits ([opening] ++ (Utf8.encodeChars (types.flatMap FieldType.chars) ++ [closing]))
        voidLetter

inductive Stuck : List UInt8 → Fault → Prop
  | noOpening {bytes : List UInt8} : bytes.head? ≠ some opening → Stuck bytes .noOpening
  | noClosing {before : List UInt8} : Awaits before closing → Stuck before .noClosing
  | type {before after : List UInt8} {stop : UInt8} {fault : Fault} : Awaits before stop →
      after.head? ≠ some stop → TypeFault before.length after fault → Stuck (before ++ after) fault
  | trailing {desc : Descriptor} {b : UInt8} {after : List UInt8} : desc.WellFormed →
      Stuck (Utf8.encodeChars desc.chars ++ b :: after)
        (.trailing (Utf8.encodeChars desc.chars).length)

lemma spans_ofBytes {bytes before : List UInt8} (h : (Cursor.ofBytes bytes).Spans before d) :
    bytes = before ++ d.rest ∧ d.pos = before.length :=
  ⟨h.1, h.2.trans (Nat.zero_add _)⟩

lemma descriptor_error {bytes : List UInt8} (h : descriptor whole (.ofBytes bytes) = .error e d) :
    Reports whole (Stuck bytes) e := by
  rw [descriptor_eq] at h
  split_ifs at h with hc
  · have hx := u1_of_head? hc
    rw [body, Step.bind_of_ok hx] at h
    have hx := Read.byte_ok_iff.mp hx
    rcases Step.bind_eq_error_iff.mp h with h | ⟨types, m, hp, h⟩
    · obtain ⟨types, m, hwf, hs, hstop⟩ := params_error h
      obtain ⟨hbytes, hpos⟩ := spans_ofBytes (Cursor.spans_append_of hx hs)
      rw [hbytes]
      rcases hstop with ⟨hend, hr⟩ | ⟨hne, hr⟩
      · rw [hend, List.append_nil]
        exact hr.imp fun _ hf => hf ▸ .noClosing (.param hwf)
      · exact hr.imp fun _ hf => .type (.param hwf) hne (hpos ▸ hf)
    · obtain ⟨types, rfl, hwf, hclose, hs⟩ := params_sound hp
      have hy := u1_of_head? hclose
      rw [Step.bind_of_ok hy] at h
      have hs := Cursor.spans_append_of hx (Cursor.spans_append_of hs (Read.byte_ok_iff.mp hy))
      rcases Step.bind_eq_error_iff.mp h with h | ⟨ret, m', hr, h⟩
      · obtain ⟨hne, hr⟩ := returnType_error h
        obtain ⟨hbytes, hpos⟩ := spans_ofBytes hs
        rw [hbytes]
        exact hr.imp fun _ hf => .type (.ret hwf) hne (hpos ▸ hf)
      · obtain ⟨hret, hs'⟩ := returnType_ok_iff.mp hr
        rw [Read.peek?_bind] at h
        cases hrest : m'.rest with
        | nil =>
          rw [hrest] at h
          exact absurd h Step.pure_ne_error
        | cons b after =>
          rw [hrest] at h
          have hs := Cursor.spans_append_of hs hs'
          rw [List.append_assoc, List.append_assoc, ← encodeChars_descriptor ⟨types, ret⟩] at hs
          obtain ⟨hbytes, hpos⟩ := spans_ofBytes hs
          refine .of_fail h ?_
          rw [hbytes, hrest, hpos]
          exact .trailing ⟨hwf, hret⟩
  · exact .of_fail h (.noOpening hc)

end ClassFile.Descriptor.Parser
