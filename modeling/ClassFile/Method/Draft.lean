import ClassFile.Method.Basic

/-! Methods under construction. Edits are applied in order, and the visibility flags are put right
once, when the method is finished. -/

namespace ClassFile.Method

structure Draft where
  name : String
  descriptor : String
  flags : Flags
  attributes : List Attribute

/-- A step in the construction of a method. Words may hold bits without a flag. -/
inductive Edit where
  | setWord (word : UInt16)
  | addWord (word : UInt16)
  | setFlags (flags : Flags)
  | addAttribute (a : Attribute)
  | addAttributes (attributes : List Attribute)

namespace Draft

def start (name descriptor : String) : Draft := ⟨name, descriptor, .onlyPublic, []⟩

def apply (draft : Draft) : Edit → Draft
  | .setWord word => { draft with flags := .ofWord word }
  | .addWord word => { draft with flags := .ofWord (draft.flags.word ||| word) }
  | .setFlags flags => { draft with flags }
  | .addAttribute a => { draft with attributes := draft.attributes ++ [a] }
  | .addAttributes attributes => { draft with attributes := draft.attributes ++ attributes }

def applyAll (draft : Draft) (edits : List Edit) : Draft := edits.foldl apply draft

def build (draft : Draft) : Method :=
  ofParts draft.name draft.descriptor draft.flags draft.attributes

end Draft

end ClassFile.Method
