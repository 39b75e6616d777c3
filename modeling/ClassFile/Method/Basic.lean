import ClassFile.Attribute.Basic
import ClassFile.Flags

namespace ClassFile

structure Method where
  name : String
  descriptor : String
  flags : Flags
  attributes : List Attribute
deriving DecidableEq

namespace Method

def instanceInitializer : String := "<init>"

def classInitializer : String := "<clinit>"

/-- A method with at most one visibility flag, see `Flags.normalized`. A method that is put
together field by field may have more. -/
def ofParts (name descriptor : String) (flags : Flags) (attributes : List Attribute) : Method :=
  ⟨name, descriptor, flags.normalized, attributes⟩

def isConstructor (m : Method) : Bool := m.name = instanceInitializer

def isClassInitializer (m : Method) : Bool := m.name = classInitializer

def attribute? (m : Method) (kind : Attribute.Kind) : Option Attribute :=
  m.attributes.find? fun a => a.kind = kind

def summary (m : Method) : String :=
  let word := String.ofList (Text.Hex.padded 4 m.flags.word.toNat)
  let name := m.name
  let descriptor := m.descriptor
  s!"<Method access:0x{word} name:{name}, descriptor:{descriptor}>"

end Method

end ClassFile
