import ClassFile.Text.Quoted

/-! The entries of a constant pool. Entries refer to each other by pool index only, and floating-
point constants are their bits. -/

namespace ClassFile

inductive Tag where
  | utf8 | integer | float | long | double | classRef | string | fieldRef | methodRef
  | interfaceMethodRef | nameAndType | methodHandle | methodType | dynamic | invokeDynamic
  | moduleRef | packageRef
deriving DecidableEq

namespace Tag

def all : List Tag :=
  [utf8, integer, float, long, double, classRef, string, fieldRef, methodRef, interfaceMethodRef,
    nameAndType, methodHandle, methodType, dynamic, invokeDynamic, moduleRef, packageRef]

def code : Tag → UInt8
  | utf8 => 1
  | integer => 3
  | float => 4
  | long => 5
  | double => 6
  | classRef => 7
  | string => 8
  | fieldRef => 9
  | methodRef => 10
  | interfaceMethodRef => 11
  | nameAndType => 12
  | methodHandle => 15
  | methodType => 16
  | dynamic => 17
  | invokeDynamic => 18
  | moduleRef => 19
  | packageRef => 20

def ofCode? (code : UInt8) : Option Tag :=
  all.find? fun tag => tag.code = code

theorem ofCode?_code (tag : Tag) : ofCode? tag.code = some tag := by
  cases tag <;> rfl

theorem code_of_ofCode? {code : UInt8} {tag : Tag} (h : ofCode? code = some tag) :
    tag.code = code := by
  simpa using List.find?_some h

def name : Tag → String
  | utf8 => "Utf8"
  | integer => "Integer"
  | float => "Float"
  | long => "Long"
  | double => "Double"
  | classRef => "Class"
  | string => "String"
  | fieldRef => "FieldRef"
  | methodRef => "MethodRef"
  | interfaceMethodRef => "InterfaceMethodRef"
  | nameAndType => "NameAndType"
  | methodHandle => "MethodHandle"
  | methodType => "MethodType"
  | dynamic => "Dynamic"
  | invokeDynamic => "InvokeDynamic"
  | moduleRef => "Module"
  | packageRef => "Package"

end Tag

/-- A pool entry. `rawUtf8` holds the modified UTF-8 bytes of text with an unpaired surrogate,
which no `String` can hold. -/
inductive Constant where
  | utf8 (text : String)
  | rawUtf8 (bytes : List UInt8)
  | integer (value : Int32)
  | float (bits : UInt32)
  | long (value : Int64)
  | double (bits : UInt64)
  | classRef (name : UInt16)
  | string (text : UInt16)
  | fieldRef (owner nameAndType : UInt16)
  | methodRef (owner nameAndType : UInt16)
  | interfaceMethodRef (owner nameAndType : UInt16)
  | nameAndType (name descriptor : UInt16)
  | methodHandle (kind : UInt8) (reference : UInt16)
  | methodType (descriptor : UInt16)
  | dynamic (bootstrap nameAndType : UInt16)
  | invokeDynamic (bootstrap nameAndType : UInt16)
  | moduleRef (name : UInt16)
  | packageRef (name : UInt16)
deriving DecidableEq, Hashable

namespace Constant

def tag : Constant → Tag
  | utf8 _ | rawUtf8 _ => .utf8
  | integer _ => .integer
  | float _ => .float
  | long _ => .long
  | double _ => .double
  | classRef _ => .classRef
  | string _ => .string
  | fieldRef .. => .fieldRef
  | methodRef .. => .methodRef
  | interfaceMethodRef .. => .interfaceMethodRef
  | nameAndType .. => .nameAndType
  | methodHandle .. => .methodHandle
  | methodType _ => .methodType
  | dynamic .. => .dynamic
  | invokeDynamic .. => .invokeDynamic
  | moduleRef _ => .moduleRef
  | packageRef _ => .packageRef

def isWide : Constant → Bool
  | long _ | double _ => true
  | _ => false

def slots (entry : Constant) : Nat :=
  if entry.isWide then 2 else 1

theorem slots_pos (entry : Constant) : 0 < entry.slots := by
  rw [slots]
  split <;> decide

def describeValue (name value : String) : String :=
  name ++ "(" ++ value ++ ")"

def describeFields (name : String) (fields : List (String × Nat)) : String :=
  let texts := fields.map fun field => field.1 ++ ": " ++ toString field.2
  name ++ " \x7b " ++ ", ".intercalate texts ++ " \x7d"

def describe : Constant → String
  | utf8 text => describeValue "Utf8" (Text.Quoted.quoteString text)
  | rawUtf8 bytes =>
    describeValue "Utf8Bytes" ("[" ++ ", ".intercalate (bytes.map fun b => toString b.toNat) ++ "]")
  | integer value => describeValue "Integer" (toString value.toInt)
  | float bits => describeValue "Float" (toString bits.toNat)
  | long value => describeValue "Long" (toString value.toInt)
  | double bits => describeValue "Double" (toString bits.toNat)
  | classRef name => describeFields "Class" [("name_index", name.toNat)]
  | string text => describeFields "String" [("string_index", text.toNat)]
  | fieldRef owner signature => member "FieldRef" owner signature
  | methodRef owner signature => member "MethodRef" owner signature
  | interfaceMethodRef owner signature => member "InterfaceMethodRef" owner signature
  | nameAndType name descriptor =>
    describeFields "NameAndType"
      [("name_index", name.toNat), ("descriptor_index", descriptor.toNat)]
  | methodHandle kind reference =>
    describeFields "MethodHandle"
      [("reference_kind", kind.toNat), ("reference_index", reference.toNat)]
  | methodType descriptor => describeFields "MethodType" [("descriptor_index", descriptor.toNat)]
  | dynamic bootstrap signature => computed "Dynamic" bootstrap signature
  | invokeDynamic bootstrap signature => computed "InvokeDynamic" bootstrap signature
  | moduleRef name => describeFields "Module" [("name_index", name.toNat)]
  | packageRef name => describeFields "Package" [("name_index", name.toNat)]
where
  member (name : String) (owner signature : UInt16) : String :=
    describeFields name [("class_index", owner.toNat), ("name_and_type_index", signature.toNat)]
  computed (name : String) (bootstrap signature : UInt16) : String :=
    describeFields name
      [("bootstrap_method_attr_index", bootstrap.toNat), ("name_and_type_index", signature.toNat)]

end Constant

end ClassFile
