import ClassFile.Method.Basic
import ClassFile.Trace

namespace ClassFile.Method

structure Header where
  name : String
  descriptor : String
  word : UInt16
  attributeCount : Nat

namespace Header

def flagList (word : UInt16) : String :=
  match (Flags.ofWord word).names with
  | [] => ""
  | names => " (" ++ ", ".intercalate names ++ ")"

def render (header : Header) (depth : UInt32) : String :=
  let indent := Trace.indent depth
  let name := header.name
  let descriptor := header.descriptor
  let word := String.ofList (Text.Hex.padded 4 header.word.toNat)
  let flags := flagList header.word
  let count := header.attributeCount
  s!"{indent}Method {name} {descriptor}\n" ++
    s!"{indent}    Flags: 0x{word}{flags}\n" ++
    s!"{indent}    Attributes: ({count})"

end Header

def header (m : Method) : Header :=
  ⟨m.name, m.descriptor, m.flags.word, m.attributes.length⟩

end ClassFile.Method
