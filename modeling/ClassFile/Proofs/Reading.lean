import ClassFile.Method.Codec
import ClassFile.Pool.Codec
import ClassFile.Proofs.Constant.Text
import ClassFile.Proofs.Record
import ClassFile.Proofs.Step.Composed

/-! What pools and records are read with: bytes at the cursor, its position, and faults of their
own. -/

namespace ClassFile

open BigEndian

variable {own : Error → Prop} {c d : Cursor} {e : Error}

namespace Cursor

def Passes (c d : Cursor) : Prop := ∃ bytes, c.Spans bytes d

def RunsOut (e : Error) (c : Cursor) : Prop :=
  ∃ needed, e = .outOfBounds c.pos needed c.rest.length ∧ c.rest.length < needed

def Begins (c d : Cursor) : Prop := c.pos = d.pos ∧ c.rest <+: d.rest

lemma passes_of_reflTransGen (h : Relation.ReflTransGen Passes c d) : c.Passes d := by
  induction h with
  | refl => exact ⟨[], spans_nil.mpr rfl⟩
  | tail _ hs ih =>
    obtain ⟨as, ha⟩ := ih
    obtain ⟨bs, hb⟩ := hs
    exact ⟨as ++ bs, spans_append_of ha hb⟩

lemma Spans.bounds {data bytes : List UInt8} {start : Nat}
    (h : (startAt data start).Spans bytes d) (hs : start ≤ data.length) :
    start ≤ d.pos ∧ d.pos ≤ data.length := by
  have hpos : d.pos = start + bytes.length := h.2
  have hlen := congrArg List.length h.1
  have hdrop : (startAt data start).rest.length = data.length - start := List.length_drop
  rw [hdrop, List.length_append] at hlen
  omega

end Cursor

namespace Read

inductive Primitive (own : Error → Prop) : ∀ {α : Type}, Read α → Prop
  | position : Primitive own position
  | bytes (n : Nat) : Primitive own (bytes n)
  | fault {α : Type} {e : Error} : own e → Primitive own (throw e : Read α)

abbrev Composed (own : Error → Prop) {α : Type} (read : Read α) : Prop :=
  Step.Composed (Primitive own) read

lemma bytes_error_iff {n : Nat} :
    bytes n c = .error e d ↔
      c.rest.length < n ∧ e = .outOfBounds c.pos n c.rest.length ∧ d = c := by
  simp only [bytes]
  by_cases h : c.rest.length < n
  · have hmin : min n c.rest.length = c.rest.length := Nat.min_eq_right (Nat.le_of_lt h)
    simp [hmin, h, Nat.ne_of_lt h, eq_comm]
  · simp [Nat.not_lt.mp h, h]

variable {α : Type} {read : Read α}

lemma composed_throw (h : own e) : Composed own (throw e : Read α) := .primitive (.fault h)

lemma composed_ofExcept {x : Except Error α} (h : ∀ e, x = .error e → own e) :
    Composed own (ofExcept x : Read α) := by
  cases x with
  | ok a => exact .pure a
  | error e => exact composed_throw (h e rfl)

lemma composed_unsigned (width : Nat) : Composed own (unsigned width) :=
  .map _ (.primitive (.bytes width))

lemma composed_u1 : Composed own u1 := .map _ (composed_unsigned 1)

lemma composed_u2 : Composed own u2 := .map _ (composed_unsigned 2)

lemma composed_u4 : Composed own u4 := .map _ (composed_unsigned 4)

lemma composed_u8 : Composed own u8 := .map _ (composed_unsigned 8)

lemma composed_i4 : Composed own i4 := .map _ composed_u4

lemma composed_i8 : Composed own i8 := .map _ composed_u8

lemma Composed.walks (h : Composed own read) : Step.Walks Cursor.Passes read := by
  apply Step.Composed.walks h
  intro β x hx c
  cases hx with
  | position => exact .refl
  | fault => exact .refl
  | bytes n =>
    cases hb : bytes n c with
    | ok data d =>
      rw [Step.after_of_ok hb]
      exact .single ⟨data, (bytes_ok_iff.mp hb).2⟩
    | error e d =>
      obtain ⟨-, -, rfl⟩ := bytes_error_iff.mp hb
      rw [Step.after_of_error hb]

lemma Composed.faults (h : Composed own read) :
    Step.Faults (fun e c => c.RunsOut e ∨ own e) read := by
  refine Step.Composed.faults h ?_
  intro β x hx c e d he
  cases hx with
  | position => cases he
  | fault ho =>
    cases he
    exact Or.inr ho
  | bytes n =>
    obtain ⟨hlt, rfl, rfl⟩ := bytes_error_iff.mp he
    exact Or.inl ⟨n, rfl, hlt⟩

lemma Composed.mirrors (h : Composed own read) :
    Step.Mirrors Cursor.Begins (fun e c => c.RunsOut e) read := by
  refine Step.Composed.mirrors h ?_
  rintro β x hx c d ⟨hpos, more, hrest⟩
  cases hx with
  | position =>
    constructor
    · intro n t h
      obtain ⟨rfl, rfl⟩ := position_ok_iff.mp h
      exact ⟨d, ⟨hpos, more, hrest⟩, position_ok_iff.mpr ⟨hpos, rfl⟩⟩
    · intro e t h
      cases h
  | fault =>
    constructor
    · intro a t h
      cases h
    · intro e t h
      cases h
      exact Or.inr ⟨d, rfl⟩
  | bytes n =>
    constructor
    · intro data t h
      obtain ⟨hn, hr, hp⟩ := bytes_ok_iff.mp h
      refine ⟨⟨t.pos, t.rest ++ more⟩, ⟨rfl, more, rfl⟩, bytes_ok_iff.mpr ⟨hn, ?_, ?_⟩⟩
      · rw [← hrest, hr, List.append_assoc]
      · rw [hp, hpos]
    · intro e t h
      obtain ⟨hlt, rfl, rfl⟩ := bytes_error_iff.mp h
      exact Or.inl ⟨n, rfl, hlt⟩

end Read

def Error.IsMalformed (e : Error) : Prop := ∃ cause, e = .malformed cause

def Error.IsInvalidReference (e : Error) : Prop := ∃ i reason, e = .invalidReference i reason

lemma Constant.composed_readFields (tag : Tag) :
    Read.Composed Error.IsMalformed (Constant.readFields tag) := by
  cases tag with
  | utf8 =>
    refine .bind Read.composed_u2 fun length => ?_
    refine .bind (.primitive (.bytes length.toNat)) fun bytes => ?_
    apply Read.composed_ofExcept
    intro e he
    obtain ⟨fault, rfl⟩ := malformed_of_ofModifiedUtf8 he
    exact ⟨_, rfl⟩
  | integer => exact .map _ Read.composed_i4
  | float => exact .map _ Read.composed_u4
  | long => exact .map _ Read.composed_i8
  | double => exact .map _ Read.composed_u8
  | classRef | string | methodType | moduleRef | packageRef => exact .map _ Read.composed_u2
  | fieldRef | methodRef | interfaceMethodRef | nameAndType | dynamic | invokeDynamic =>
    exact .seq (.map _ Read.composed_u2) Read.composed_u2
  | methodHandle => exact .seq (.map _ Read.composed_u1) Read.composed_u2

lemma Constant.composed_read : Read.Composed Error.IsMalformed Constant.read := by
  refine .bind (.primitive .position) fun offset => .bind Read.composed_u1 fun code => ?_
  cases Tag.ofCode? code with
  | some tag => exact composed_readFields tag
  | none => exact Read.composed_throw ⟨_, rfl⟩

lemma Pool.composed_readEntries (count : UInt16) (pool : Pool) :
    Read.Composed Error.IsMalformed (readEntries count pool) := by
  induction pool using readEntries.induct count with
  | case1 pool hlt ih =>
    rw [readEntries, if_pos hlt]
    refine .bind Constant.composed_read fun entry => ?_
    split
    · exact Read.composed_throw ⟨_, rfl⟩
    · next hfit => exact ih entry hfit
  | case2 pool hge =>
    rw [readEntries, if_neg hge]
    exact .pure pool

lemma Pool.composed_read : Read.Composed Error.IsMalformed Pool.read := by
  refine .bind Read.composed_u2 fun count => ?_
  split
  · exact .bind (Read.composed_throw ⟨_, rfl⟩) fun _ => composed_readEntries count empty
  · exact composed_readEntries count empty

lemma Pool.get_error {pool : Pool} {i : UInt16} (h : pool.get i = .error e) :
    ∃ reason, e = .invalidReference i reason := by
  rw [get] at h
  split at h
  · cases h
    exact ⟨_, rfl⟩
  · split at h <;> cases h <;> exact ⟨_, rfl⟩

lemma Pool.textAt_error {pool : Pool} {i : UInt16} (h : pool.textAt i = .error e) :
    ∃ reason, e = .invalidReference i reason := by
  rw [textAt] at h
  split at h
  · cases h
  · cases h
    exact ⟨_, rfl⟩
  · cases h
    exact ⟨_, rfl⟩
  · next hg =>
    cases h
    exact get_error hg

namespace ReadRecord

inductive Primitive (own : Error → Prop) : ∀ {α : Type}, ReadRecord α → Prop
  | lift {α : Type} {read : Read α} : Read.Composed own read →
      Primitive own (liftM read : ReadRecord α)
  | trace (tracing : Tracing) (render : UInt32 → String) : Primitive own (trace tracing render)
  | fault {α : Type} {e : Error} : own e → Primitive own (throw e : ReadRecord α)

abbrev Composed (own : Error → Prop) {α : Type} (read : ReadRecord α) : Prop :=
  Step.Composed (Primitive own) read

variable {α : Type} {read : ReadRecord α}

lemma composed_text (pool : Pool) : Composed Error.IsInvalidReference (text pool) := by
  refine .bind (.primitive (.lift Read.composed_u2)) fun index => ?_
  cases h : pool.textAt index with
  | ok text => exact .pure text
  | error e => exact .primitive (.fault ⟨index, Pool.textAt_error h⟩)

lemma lift_error_iff {read : Read α} {r t : Reader} :
    (liftM read : ReadRecord α) r = .error e t ↔
      read r.cursor = .error e t.cursor ∧ t.shown = r.shown := by
  cases t
  simp only [liftM, monadLift, MonadLift.monadLift]
  cases read r.cursor <;> simp [and_assoc, eq_comm]

lemma quietly_error_iff {c d : Cursor} :
    quietly read c = .error e d ↔ ∃ shown, read ⟨c, #[]⟩ = .error e ⟨d, shown⟩ := by
  rw [quietly]
  cases read ⟨c, #[]⟩ with
  | ok a s => simp
  | error f s =>
    constructor
    · rintro ⟨⟩
      exact ⟨s.shown, rfl⟩
    · rintro ⟨_, ⟨⟩⟩
      rfl

lemma after_lift (read : Read α) (r : Reader) :
    Step.after (liftM read : ReadRecord α) r = { r with cursor := Step.after read r.cursor } := by
  simp only [Step.after, liftM, monadLift, MonadLift.monadLift]
  cases read r.cursor <;> rfl

lemma after_quietly (read : ReadRecord α) (c : Cursor) :
    Step.after (quietly read) c = (Step.after read ⟨c, #[]⟩).cursor := by
  simp only [Step.after, quietly]
  cases read ⟨c, #[]⟩ <;> rfl

lemma Composed.walks (h : Composed own read) : Step.Walks Cursor.Passes (quietly read) := by
  have hw : Step.Walks (fun r t => r.cursor.Passes t.cursor) read := by
    refine Step.Composed.walks h ?_
    intro β x hx r
    cases hx with
    | lift hr =>
      rw [after_lift]
      exact .single (Cursor.passes_of_reflTransGen (hr.walks r.cursor))
    | trace => exact .single ⟨[], Cursor.spans_nil.mpr rfl⟩
    | fault => exact .refl
  intro c
  rw [after_quietly]
  exact (hw ⟨c, #[]⟩).lift Reader.cursor fun _ _ h => h

lemma Composed.faults (h : Composed own read) :
    Step.Faults (fun e c => c.RunsOut e ∨ own e) (quietly read) := by
  have hf : Step.Faults (fun e (r : Reader) => r.cursor.RunsOut e ∨ own e) read := by
    refine Step.Composed.faults h ?_
    intro β x hx r e t he
    cases hx with
    | lift hr => exact hr.faults _ _ _ (lift_error_iff.mp he).1
    | trace => cases he
    | fault ho =>
      cases he
      exact Or.inr ho
  intro c e d he
  obtain ⟨shown, he⟩ := quietly_error_iff.mp he
  exact hf _ _ _ he

lemma Composed.mirrors (h : Composed own read) :
    Step.Mirrors Cursor.Begins (fun e c => c.RunsOut e) (quietly read) := by
  have hm : Step.Mirrors (fun r t => r.cursor.Begins t.cursor)
      (fun e (r : Reader) => r.cursor.RunsOut e) read := by
    refine Step.Composed.mirrors h ?_
    intro β x hx r r' hr
    cases hx with
    | lift hx =>
      obtain ⟨hok, herror⟩ := hx.mirrors _ _ hr
      constructor
      · intro a t h
        obtain ⟨d, hd, h'⟩ := hok a t.cursor (lift_ok_iff.mp h).1
        exact ⟨⟨d, r'.shown⟩, hd, lift_ok_iff.mpr ⟨h', rfl⟩⟩
      · intro e t h
        rcases herror e t.cursor (lift_error_iff.mp h).1 with hstop | ⟨d, h'⟩
        · exact Or.inl hstop
        · exact Or.inr ⟨⟨d, r'.shown⟩, lift_error_iff.mpr ⟨h', rfl⟩⟩
    | trace tracing render =>
      constructor
      · intro u t h
        cases h
        exact ⟨⟨r'.cursor, r'.shown ++ tracing.lines render⟩, hr, rfl⟩
      · intro e t h
        cases h
    | fault =>
      constructor
      · intro a t h
        cases h
      · intro e t h
        cases h
        exact Or.inr ⟨r', rfl⟩
  intro c d hc
  obtain ⟨hok, herror⟩ := hm ⟨c, #[]⟩ ⟨d, #[]⟩ hc
  constructor
  · intro a t h
    obtain ⟨shown, h⟩ := quietly_ok_iff.mp h
    obtain ⟨t', ht, h'⟩ := hok a _ h
    exact ⟨t'.cursor, ht, quietly_ok_iff.mpr ⟨t'.shown, h'⟩⟩
  · intro e t h
    obtain ⟨shown, h⟩ := quietly_error_iff.mp h
    rcases herror e _ h with hstop | ⟨t', h'⟩
    · exact Or.inl hstop
    · exact Or.inr ⟨t'.cursor, quietly_error_iff.mpr ⟨t'.shown, h'⟩⟩

end ReadRecord

open ReadRecord in
lemma Attribute.composed_read (pool : Pool) (tracing : Tracing) :
    ReadRecord.Composed Error.IsInvalidReference (Attribute.read pool tracing) := by
  refine .bind (composed_text pool) fun name => ?_
  refine .bind (.primitive (.lift Read.composed_u4)) fun length => ?_
  refine .bind (.primitive (.trace _ _)) fun _ => ?_
  refine .bind (.primitive (.lift (.primitive (.bytes _)))) fun info => .pure _

open ReadRecord in
lemma Method.composed_read (pool : Pool) (tracing : Tracing) :
    ReadRecord.Composed Error.IsInvalidReference (Method.read pool tracing) := by
  refine .bind (.primitive (.lift Read.composed_u2)) fun word => ?_
  refine .bind (composed_text pool) fun name => .bind (composed_text pool) fun descriptor => ?_
  refine .bind (.primitive (.lift Read.composed_u2)) fun count => ?_
  refine .bind (.primitive (.trace _ _)) fun _ => ?_
  exact .bind (.mapM (fun _ => Attribute.composed_read pool tracing.nested) _) fun _ => .pure _

end ClassFile
