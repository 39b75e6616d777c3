/-! Method descriptors, written without separators: every type shows where it ends. -/

namespace ClassFile

inductive Primitive where
  | byte | char | double | float | int | long | short | boolean
deriving DecidableEq

namespace Primitive

def all : List Primitive :=
  [byte, char, double, float, int, long, short, boolean]

theorem mem_all (p : Primitive) : p ∈ all := by
  cases p <;> simp [all]

def letter : Primitive → Char
  | byte => 'B'
  | char => 'C'
  | double => 'D'
  | float => 'F'
  | int => 'I'
  | long => 'J'
  | short => 'S'
  | boolean => 'Z'

end Primitive

inductive BaseType where
  | primitive (type : Primitive)
  | object (name : String)
deriving DecidableEq

structure FieldType where
  base : BaseType
  dimensions : Nat
deriving DecidableEq

structure Descriptor where
  params : List FieldType
  ret : Option FieldType
deriving DecidableEq

def IsClassName (name : List Char) : Prop :=
  '.' ∉ name ∧ ';' ∉ name ∧ '[' ∉ name ∧ ∀ segment ∈ name.splitOn '/', segment ≠ []

namespace BaseType

def chars : BaseType → List Char
  | primitive type => [type.letter]
  | object name => 'L' :: name.toList ++ [';']

def WellFormed : BaseType → Prop
  | primitive _ => True
  | object name => IsClassName name.toList

end BaseType

namespace FieldType

def maxDimensions : Nat := 255

def slots (type : FieldType) : Nat :=
  if type.dimensions = 0 ∧ (type.base = .primitive .long ∨ type.base = .primitive .double)
  then 2 else 1

def chars (type : FieldType) : List Char :=
  List.replicate type.dimensions '[' ++ type.base.chars

def render (type : FieldType) : String :=
  .ofList type.chars

def WellFormed (type : FieldType) : Prop :=
  type.dimensions ≤ maxDimensions ∧ type.base.WellFormed

end FieldType

namespace Descriptor

def paramSlots (d : Descriptor) : Nat :=
  d.params.foldl (fun n type => n + type.slots) 0

def returnChars : Option FieldType → List Char
  | none => ['V']
  | some type => type.chars

def chars (d : Descriptor) : List Char :=
  '(' :: d.params.flatMap FieldType.chars ++ ')' :: returnChars d.ret

def render (d : Descriptor) : String :=
  .ofList d.chars

def WellFormed (d : Descriptor) : Prop :=
  (∀ type ∈ d.params, type.WellFormed) ∧ ∀ type ∈ d.ret, type.WellFormed

end Descriptor

end ClassFile
