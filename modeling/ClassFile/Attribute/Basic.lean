import ClassFile.Attribute.Kind
import ClassFile.Record

/-! Attributes: a name and bytes that are not looked into. -/

namespace ClassFile

structure Attribute where
  name : String
  info : List UInt8
deriving DecidableEq

namespace Attribute

def maxLength : Nat := 4294967295

def kind (a : Attribute) : Kind := .ofName a.name

def summary (name : String) (length : UInt32) (depth : UInt32) : String :=
  let indent := Trace.indent depth
  let length := length.toNat
  s!"{indent}Attribute {name} ({length} bytes)"

def read (pool : Pool) (tracing : Tracing) : ReadRecord Attribute := do
  let name ← ReadRecord.text pool
  let length ← Read.u4
  ReadRecord.trace tracing (summary name length)
  let info ← Read.bytes length.toNat
  return ⟨name, info⟩

def resolve (a : Attribute) : Intern Unit := do
  let _ ← Intern.addText a.name

def write (pool : Pool) (a : Attribute) : Write Unit := do
  if a.info.length > maxLength then throw (.malformed (.payloadTooLong a.name a.info.length))
  Write.text pool a.name
  Write.u4 (.ofNat a.info.length)
  Write.bytes a.info

end Attribute

end ClassFile
