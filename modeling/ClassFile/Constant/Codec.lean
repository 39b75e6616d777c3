import ClassFile.Cursor
import ClassFile.Output

namespace ClassFile.Constant

def ofModifiedUtf8 (bytes : List UInt8) : Except Error Constant :=
  match Text.ModifiedUtf8.decodeUnits bytes with
  | .error fault => .error (.malformed (.text fault))
  | .ok units =>
    match Text.Utf16.decode? units with
    | some text => .ok (utf8 text)
    | none => .ok (rawUtf8 bytes)

def maxTextLength : Nat := 65535

def payloadLength : Constant → Nat
  | utf8 text => Text.ModifiedUtf8.encodedLength text
  | rawUtf8 bytes => bytes.length
  | _ => 0

def readFields : Tag → Read Constant
  | .utf8 => do
    let length ← Read.u2
    let bytes ← Read.bytes length.toNat
    ofExcept (ofModifiedUtf8 bytes)
  | .integer => integer <$> Read.i4
  | .float => float <$> Read.u4
  | .long => long <$> Read.i8
  | .double => double <$> Read.u8
  | .classRef => classRef <$> Read.u2
  | .string => string <$> Read.u2
  | .fieldRef => fieldRef <$> Read.u2 <*> Read.u2
  | .methodRef => methodRef <$> Read.u2 <*> Read.u2
  | .interfaceMethodRef => interfaceMethodRef <$> Read.u2 <*> Read.u2
  | .nameAndType => nameAndType <$> Read.u2 <*> Read.u2
  | .methodHandle => methodHandle <$> Read.u1 <*> Read.u2
  | .methodType => methodType <$> Read.u2
  | .dynamic => dynamic <$> Read.u2 <*> Read.u2
  | .invokeDynamic => invokeDynamic <$> Read.u2 <*> Read.u2
  | .moduleRef => moduleRef <$> Read.u2
  | .packageRef => packageRef <$> Read.u2

def read : Read Constant := do
  let offset ← Read.position
  let code ← Read.u1
  match Tag.ofCode? code with
  | some tag => readFields tag
  | none => throw (.malformed (.unknownTag code offset))

def writePayload (bytes : List UInt8) : Write Unit :=
  if bytes.length ≤ maxTextLength then do
    Write.u2 (.ofNat bytes.length)
    Write.bytes bytes
  else throw (.malformed (.textTooLong bytes.length))

def writeFields : Constant → Write Unit
  | utf8 text => writePayload (Text.ModifiedUtf8.encode text)
  | rawUtf8 bytes => writePayload bytes
  | integer value => Write.i4 value
  | float bits => Write.u4 bits
  | long value => Write.i8 value
  | double bits => Write.u8 bits
  | classRef index | string index | methodType index | moduleRef index | packageRef index =>
    Write.u2 index
  | fieldRef first second | methodRef first second | interfaceMethodRef first second
  | nameAndType first second | dynamic first second | invokeDynamic first second => do
    Write.u2 first
    Write.u2 second
  | methodHandle kind reference => do
    Write.u1 kind
    Write.u2 reference

def write (entry : Constant) : Write Unit := do
  Write.u1 entry.tag.code
  entry.writeFields

end ClassFile.Constant
