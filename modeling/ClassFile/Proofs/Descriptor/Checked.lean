import ClassFile.Descriptor.Parser

/-! The descriptor parser with all that it relies on checked while it runs. -/

namespace ClassFile

namespace Text

def splitAt? (text : String) (offset : Nat) : Option (String × String) :=
  if h : String.Pos.Raw.IsValid text ⟨offset⟩ then
    let pos : text.Pos := ⟨⟨offset⟩, h⟩
    some ((text.sliceTo pos).copy, (text.sliceFrom pos).copy)
  else none

theorem splitAt?_append (front back : String) :
    splitAt? (front ++ back) front.utf8ByteSize = some (front, back) := by
  have h : String.Pos.Raw.IsValid (front ++ back) ⟨front.utf8ByteSize⟩ :=
    String.Pos.Raw.isValid_iff_exists_append.mpr ⟨front, back, rfl, rfl⟩
  have hsplits : (⟨_, h⟩ : (front ++ back).Pos).Splits front back := ⟨rfl, rfl⟩
  rw [splitAt?, dif_pos h]
  simp only [hsplits.copy_sliceTo_eq, hsplits.copy_sliceFrom_eq]

example : splitAt? "é;" 1 = none ∧ splitAt? "é;" 4 = none := by decide +kernel

def offsetOf? (c : Char) : List Char → Option Nat
  | [] => none
  | d :: ds => if d = c then some 0 else (offsetOf? c ds).map fun n => d.utf8Size + n

end Text

namespace Descriptor.Checked

inductive Stop where
  | error (e : Error)
  | badCut (offset : Nat)
  | belowZero
deriving DecidableEq

abbrev Run := EStateM Stop Cursor

def ofRead {α : Type} (x : Read α) : Run α := fun c =>
  match x c with
  | .ok a d => .ok a d
  | .error e d => .error (.error e) d

def attempt {α : Type} (x : Read α) : Run (Option α) := fun c =>
  match x c with
  | .ok a d => .ok (some a) d
  | .error _ d => .ok none d

def cut (text : String) (offset : Nat) : Run (String × String) := fun c =>
  match Text.splitAt? text offset with
  | some parts => .ok parts c
  | none => .error (.badCut offset) c

def placeBefore : Nat → Run Nat
  | 0 => throw .belowZero
  | pos + 1 => return pos

variable (whole : String)

def fail {α : Type} (fault : Fault) : Run α := ofRead (Parser.fail whole fault)

def className : Run String := do
  let start ← ofRead Read.position
  let (_, rest) ← cut whole start
  match Text.offsetOf? ';' rest.toList with
  | none => fail whole (.unterminatedName start)
  | some length =>
    let (name, _) ← cut rest length
    if Parser.isClassName name then do
      let _ ← ofRead (Read.bytes (length + 1))
      return name
    else fail whole (.badName name)

def baseType : Run BaseType := do
  match ← attempt Read.u1 with
  | none => fail whole .endsInType
  | some byte =>
    match Primitive.ofLetter? byte with
    | some p => return .primitive p
    | none =>
      if byte = Parser.objectLetter then do
        let name ← className whole
        return .object name
      else do
        let behind ← ofRead Read.position
        let pos ← placeBefore behind
        fail whole (.badLetter byte pos)

theorem ofRead_ok {α : Type} {x : Read α} {a : α} {c d : Cursor} (h : ofRead x c = .ok a d) :
    x c = .ok a d := by
  rw [ofRead] at h
  split at h <;> cases h
  assumption

theorem attempt_ok {α : Type} {x : Read α} {a : α} {c d : Cursor}
    (h : attempt x c = .ok (some a) d) : x c = .ok a d := by
  rw [attempt] at h
  split at h <;> cases h
  assumption

theorem cut_ok {text : String} {offset : Nat} {parts : String × String} {c d : Cursor}
    (h : cut text offset c = .ok parts d) : c = d := by
  rw [cut] at h
  split at h <;> cases h
  rfl

theorem fail_ne_ok {α : Type} {fault : Fault} {a : α} {c d : Cursor} :
    fail whole fault c ≠ .ok a d := nofun

theorem u1_length {b : UInt8} {c d : Cursor} (h : Read.u1 c = .ok b d) :
    d.rest.length < c.rest.length := by
  obtain ⟨hpos, rfl⟩ := Read.u1_ok h
  rw [Cursor.length_rest_advance]
  omega

theorem className_length {name : String} {c d : Cursor} (h : className whole c = .ok name d) :
    d.rest.length ≤ c.rest.length := by
  obtain ⟨start, _, hp, h⟩ := Step.bind_eq_ok_iff.mp h
  obtain ⟨⟨_, rest⟩, _, hcut, h⟩ := Step.bind_eq_ok_iff.mp h
  obtain ⟨-, rfl⟩ := Read.position_ok (ofRead_ok hp)
  obtain rfl := cut_ok hcut
  cases hoffset : Text.offsetOf? ';' rest.toList with
  | none =>
    simp only [hoffset] at h
    exact absurd h (fail_ne_ok whole)
  | some length =>
    simp only [hoffset] at h
    obtain ⟨_, _, hcut, h⟩ := Step.bind_eq_ok_iff.mp h
    obtain rfl := cut_ok hcut
    split at h
    · obtain ⟨_, _, hb, h⟩ := Step.bind_eq_ok_iff.mp h
      cases h
      rw [(Read.bytes_ok (ofRead_ok hb)).2.2, Cursor.length_rest_advance]
      omega
    · exact absurd h (fail_ne_ok whole)

theorem baseType_length {type : BaseType} {c d : Cursor} (h : baseType whole c = .ok type d) :
    d.rest.length < c.rest.length := by
  obtain ⟨byte, _, hbyte, h⟩ := Step.bind_eq_ok_iff.mp h
  cases byte with
  | none => exact absurd h (fail_ne_ok whole)
  | some byte =>
    have hlt := u1_length (attempt_ok hbyte)
    cases hl : Primitive.ofLetter? byte with
    | some p =>
      simp only [hl] at h
      cases h
      exact hlt
    | none =>
      simp only [hl] at h
      split at h
      · obtain ⟨_, _, hc, h⟩ := Step.bind_eq_ok_iff.mp h
        cases h
        exact Nat.lt_of_le_of_lt (className_length whole hc) hlt
      · obtain ⟨_, _, _, h⟩ := Step.bind_eq_ok_iff.mp h
        obtain ⟨_, _, _, h⟩ := Step.bind_eq_ok_iff.mp h
        exact absurd h (fail_ne_ok whole)

def brackets (dims : Nat) (c : Cursor) : EStateM.Result Stop Cursor Nat :=
  if c.rest.head? = some Parser.bracket then
    match h : ofRead Read.u1 c with
    | .error stop d => .error stop d
    | .ok _ d =>
      have := u1_length (ofRead_ok h)
      brackets (dims + 1) d
  else .ok dims c
termination_by c.rest.length

theorem brackets_length {dims n : Nat} {c d : Cursor} (h : brackets dims c = .ok n d) :
    d.rest.length ≤ c.rest.length := by
  fun_induction brackets dims c with
  | case1 => cases h
  | case2 dims c _ byte e hbyte hlt ih => exact Nat.le_trans (ih h) (Nat.le_of_lt hlt)
  | case3 =>
    cases h
    exact Nat.le_refl _

def fieldType : Run FieldType := do
  let dims ← brackets 0
  if dims > FieldType.maxDimensions then fail whole (.tooManyDimensions dims)
  let base ← baseType whole
  return ⟨base, dims⟩

theorem fieldType_length {type : FieldType} {c d : Cursor} (h : fieldType whole c = .ok type d) :
    d.rest.length < c.rest.length := by
  obtain ⟨dims, _, hdims, h⟩ := Step.bind_eq_ok_iff.mp h
  split at h
  · cases h
  · obtain ⟨_, _, hb, h⟩ := Step.bind_eq_ok_iff.mp h
    cases h
    exact Nat.lt_of_lt_of_le (baseType_length whole hb) (brackets_length hdims)

def params (done : List FieldType) (c : Cursor) :
    EStateM.Result Stop Cursor (List FieldType) :=
  match c.rest.head? with
  | none => fail whole .noClosing c
  | some byte =>
    if byte = Parser.closing then .ok done.reverse c
    else match h : fieldType whole c with
      | .error stop d => .error stop d
      | .ok type d =>
        have := fieldType_length whole h
        params (type :: done) d
termination_by c.rest.length

def returnType : Run (Option FieldType) := do
  match ← ofRead Read.peek? with
  | some byte =>
    if byte = Parser.voidLetter then do
      let _ ← ofRead Read.u1
      return none
    else some <$> fieldType whole
  | none => some <$> fieldType whole

def descriptor : Run Descriptor := do
  match ← attempt Read.u1 with
  | some byte => if byte ≠ Parser.opening then fail whole .noOpening
  | none => fail whole .noOpening
  let params ← params whole []
  let _ ← ofRead Read.u1
  let ret ← returnType whole
  match ← ofRead Read.peek? with
  | none => return ⟨params, ret⟩
  | some _ => do
    let pos ← ofRead Read.position
    fail whole (.trailing pos)

def parse (text : String) : Except Stop Descriptor :=
  match descriptor text (.ofBytes (Text.Utf8.encode text)) with
  | .ok d _ => .ok d
  | .error stop _ => .error stop

end Descriptor.Checked

end ClassFile
