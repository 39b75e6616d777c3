import ClassFile.Cursor
import ClassFile.Descriptor.Basic
import ClassFile.Text.Utf8

namespace ClassFile

namespace Primitive

def ofLetter? (byte : UInt8) : Option Primitive :=
  all.find? fun p => p.letter.toUInt8 = byte

end Primitive

namespace Descriptor.Parser

def opening : UInt8 := '('.toUInt8

def closing : UInt8 := ')'.toUInt8

def bracket : UInt8 := '['.toUInt8

def semicolon : UInt8 := ';'.toUInt8

def objectLetter : UInt8 := 'L'.toUInt8

def voidLetter : UInt8 := 'V'.toUInt8

variable (whole : String)

def fail {α : Type} (fault : Fault) : Read α := throw (.malformed (.descriptor whole fault))

def isClassName (name : String) : Bool :=
  (name.toList.splitOn '/').all fun segment =>
    !segment.isEmpty && !segment.contains '.' && !segment.contains '['

def className : Read String := do
  let start ← Read.position
  let bytes ← Read.takeWhile fun b => b ≠ semicolon
  match ← Read.peek? with
  | none => fail whole (.unterminatedName start)
  | some _ =>
    match Text.Utf8.decode? bytes with
    | none => fail whole (.brokenCharacter start)
    | some name =>
      if isClassName name then do
        let _ ← Read.u1
        return name
      else fail whole (.badName name)

def baseType : Read BaseType := do
  let pos ← Read.position
  match ← Read.peek? with
  | none => fail whole .endsInType
  | some byte =>
    let _ ← Read.u1
    match Primitive.ofLetter? byte with
    | some p => return .primitive p
    | none =>
      if byte = objectLetter then do
        let name ← className whole
        return .object name
      else fail whole (.badLetter byte pos)

def fieldType : Read FieldType := do
  let brackets ← Read.takeWhile fun b => b = bracket
  if brackets.length > FieldType.maxDimensions then
    fail whole (.tooManyDimensions brackets.length)
  let base ← baseType whole
  return ⟨base, brackets.length⟩

theorem className_length {name : String} {c d : Cursor} (h : className whole c = .ok name d) :
    d.rest.length ≤ c.rest.length := by
  obtain ⟨start, _, hp, h⟩ := Step.bind_eq_ok_iff.mp h
  obtain ⟨bytes, _, hb, h⟩ := Step.bind_eq_ok_iff.mp h
  obtain ⟨next, _, hn, h⟩ := Step.bind_eq_ok_iff.mp h
  obtain ⟨_, rfl⟩ := Read.position_ok hp
  obtain ⟨_, rfl⟩ := Read.takeWhile_ok hb
  obtain ⟨_, rfl⟩ := Read.peek?_ok hn
  cases next with
  | none => cases h
  | some _ =>
    cases hd : Text.Utf8.decode? bytes with
    | none =>
      simp only [hd] at h
      cases h
    | some decoded =>
      simp only [hd] at h
      split at h
      · obtain ⟨_, _, hu, h⟩ := Step.bind_eq_ok_iff.mp h
        cases h
        rw [(Read.u1_ok hu).2, Cursor.length_rest_advance, Cursor.length_rest_advance]
        omega
      · cases h

theorem baseType_length {type : BaseType} {c d : Cursor} (h : baseType whole c = .ok type d) :
    d.rest.length < c.rest.length := by
  obtain ⟨pos, _, hp, h⟩ := Step.bind_eq_ok_iff.mp h
  obtain ⟨next, _, hn, h⟩ := Step.bind_eq_ok_iff.mp h
  obtain ⟨_, rfl⟩ := Read.position_ok hp
  obtain ⟨_, rfl⟩ := Read.peek?_ok hn
  cases next with
  | none => cases h
  | some byte =>
    obtain ⟨_, _, hu, h⟩ := Step.bind_eq_ok_iff.mp h
    obtain ⟨hpos, rfl⟩ := Read.u1_ok hu
    have hlt := Cursor.length_rest_advance c 1
    cases hl : Primitive.ofLetter? byte with
    | some p =>
      simp only [hl] at h
      cases h
      omega
    | none =>
      simp only [hl] at h
      split at h
      · obtain ⟨_, _, hc, h⟩ := Step.bind_eq_ok_iff.mp h
        cases h
        have := className_length whole hc
        omega
      · cases h

theorem fieldType_length {type : FieldType} {c d : Cursor} (h : fieldType whole c = .ok type d) :
    d.rest.length < c.rest.length := by
  obtain ⟨brackets, _, hw, h⟩ := Step.bind_eq_ok_iff.mp h
  obtain ⟨_, rfl⟩ := Read.takeWhile_ok hw
  split at h
  · cases h
  obtain ⟨_, _, hb, h⟩ := Step.bind_eq_ok_iff.mp h
  cases h
  have := baseType_length whole hb
  rw [Cursor.length_rest_advance] at this
  omega

def params (done : List FieldType) (c : Cursor) : EStateM.Result Error Cursor (List FieldType) :=
  match c.rest with
  | [] => fail whole .noClosing c
  | byte :: _ =>
    if byte = closing then .ok done.reverse c
    else match h : fieldType whole c with
      | .error e d => .error e d
      | .ok type d =>
        have := fieldType_length whole h
        params (type :: done) d
termination_by c.rest.length

def returnType : Read (Option FieldType) := do
  match ← Read.peek? with
  | some byte =>
    if byte = voidLetter then do
      let _ ← Read.u1
      return none
    else some <$> fieldType whole
  | none => some <$> fieldType whole

def descriptor : Read Descriptor := do
  match ← Read.peek? with
  | some byte => if byte ≠ opening then fail whole .noOpening
  | none => fail whole .noOpening
  let _ ← Read.u1
  let params ← params whole []
  let _ ← Read.u1
  let ret ← returnType whole
  match ← Read.peek? with
  | none => return ⟨params, ret⟩
  | some _ => do
    let pos ← Read.position
    fail whole (.trailing pos)

end Descriptor.Parser

def Descriptor.parse (text : String) : Except Error Descriptor :=
  match Parser.descriptor text (.ofBytes (Text.Utf8.encode text)) with
  | .ok d _ => .ok d
  | .error e _ => .error e

end ClassFile
