import ClassFile.Proofs.Method.Stored

/-! The fields of a record in order, for a method with strings and for its stored form with indices.
-/

namespace ClassFile

open BigEndian

inductive Field (ι : Type) where
  | text (ref : ι)
  | plain (bytes : List UInt8)

namespace Field

variable {ι κ : Type}

def map (f : ι → κ) : Field ι → Field κ
  | text ref => text (f ref)
  | plain bytes => plain bytes

def bytes : Field UInt16 → List UInt8
  | text index => toBytes 2 index.toNat
  | plain bytes => bytes

def ofAttribute (name : ι) (info : List UInt8) : List (Field ι) :=
  [text name, plain (toBytes 4 info.length), plain info]

def ofMethod (word : UInt16) (name descriptor : ι) (attributes : List (List (Field ι))) :
    List (Field ι) :=
  [plain (toBytes 2 word.toNat), text name, text descriptor, plain (toBytes 2 attributes.length)] ++
    attributes.flatten

end Field

def Attribute.fields (a : Attribute) : List (Field String) := Field.ofAttribute a.name a.info

def Attribute.Stored.fields (s : Stored) : List (Field UInt16) := Field.ofAttribute s.name s.info

def Method.fields (m : Method) : List (Field String) :=
  Field.ofMethod m.flags.word m.name m.descriptor (m.attributes.map Attribute.fields)

def Method.Stored.fields (s : Stored) : List (Field UInt16) :=
  Field.ofMethod s.word s.name s.descriptor (s.attributes.map Attribute.Stored.fields)

end ClassFile
