import ClassFile.Text.Quoted

/-! Why a text is no method descriptor. Positions count bytes of UTF-8. -/

namespace ClassFile

inductive Descriptor.Fault where
  | noOpening
  | noClosing
  | tooManyDimensions (dimensions : Nat)
  | endsInType
  | badLetter (byte : UInt8) (pos : Nat)
  | unterminatedName (pos : Nat)
  | brokenCharacter (pos : Nat)
  | badName (name : String)
  | trailing (pos : Nat)
deriving DecidableEq

namespace Descriptor.Fault

def clause : Fault → String
  | noOpening => "must start with '('"
  | noClosing => "is missing ')'"
  | tooManyDimensions dimensions => s!"declares {dimensions} array dimensions"
  | endsInType => "ends inside a field type"
  | badLetter byte pos =>
    let letter := Text.Quoted.quoteChar (.ofNat byte.toNat)
    s!"has invalid type character {letter} at {pos}"
  | unterminatedName pos => s!"has an unterminated class name at {pos}"
  | brokenCharacter pos => s!"has a class name that splits a character at {pos}"
  | badName name =>
    let quoted := Text.Quoted.quoteString name
    s!"has invalid class name {quoted}"
  | trailing pos => s!"has trailing characters at {pos}"

end Descriptor.Fault

end ClassFile
