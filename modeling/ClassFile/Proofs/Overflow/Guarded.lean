import ClassFile.Method.Codec
import ClassFile.Pool.Codec
import Mathlib.Algebra.Group.Nat.Defs

/-! Reading in numbers of fixed width. A run stops where a result does not fit its type, or where a
slice of the data is not there. -/

namespace ClassFile.Guarded

inductive Stop where
  | error (e : Error)
  | overflow
  | badSlice
deriving DecidableEq

abbrev Run := EStateM Stop

instance : MonadLift (Run Cursor) (Run Reader) where
  monadLift run := fun r =>
    match run r.cursor with
    | .ok a cursor => .ok a { r with cursor }
    | .error stop cursor => .error stop { r with cursor }

def ofPlain {α : Type} : Except Error α → Except Stop α
  | .ok a => .ok a
  | .error e => .error (.error e)

def fault {α : Type} (f : Text.ModifiedUtf8.Fault) : Except Stop α :=
  .error (.error (.malformed (.text f)))

def fits (bits n : Nat) : Except Stop Unit :=
  if n < 2 ^ bits then .ok () else .error .overflow

def reaches (m n : Nat) : Except Stop Unit :=
  if n ≤ m then .ok () else .error .overflow

def slice (data : List UInt8) (start stop : Nat) : Except Stop (List UInt8) :=
  if start ≤ stop ∧ stop ≤ data.length then .ok (data.extract start stop) else .error .badSlice

-- Places in the data are numbers of `width` bits.
variable (width : Nat)

section Text

variable (bytes : List UInt8)

def continuation (pos : Nat) : Except Stop Nat :=
  match bytes[pos]? with
  | some byte =>
    if byte.toNat &&& 0xC0 = 0x80 then .ok (byte.toNat &&& 0x3F)
    else fault (.invalidContinuation pos)
  | none => fault (.invalidContinuation pos)

def unitOfTwo (pos lead : Nat) : Except Stop Nat := do
  fits width (pos + 1)
  let low ← continuation bytes (pos + 1)
  fits 16 ((lead &&& 0x1F) <<< 6)
  let unit := (lead &&& 0x1F) <<< 6 ||| low
  if unit ≠ 0 ∧ unit < 0x80 then fault (.overlong pos) else return unit

def unitOfThree (pos lead : Nat) : Except Stop Nat := do
  fits width (pos + 1)
  let mid ← continuation bytes (pos + 1)
  fits width (pos + 2)
  let low ← continuation bytes (pos + 2)
  fits 16 ((lead &&& 0x0F) <<< 12)
  fits 16 (mid <<< 6)
  let unit := (lead &&& 0x0F) <<< 12 ||| mid <<< 6 ||| low
  if unit < 0x800 then fault (.overlong pos) else return unit

def decodeFrom (done : List UInt16) (pos : Nat) : Except Stop (List UInt16) :=
  if h : pos < bytes.length then
    let lead := bytes[pos].toNat
    if 0x01 ≤ lead ∧ lead ≤ 0x7F then do
      fits width (pos + 1)
      decodeFrom (.ofNat lead :: done) (pos + 1)
    else if 0xC0 ≤ lead ∧ lead ≤ 0xDF then do
      let unit ← unitOfTwo width bytes pos lead
      fits 16 unit
      fits width (pos + 2)
      decodeFrom (.ofNat unit :: done) (pos + 2)
    else if 0xE0 ≤ lead ∧ lead ≤ 0xEF then do
      let unit ← unitOfThree width bytes pos lead
      fits 16 unit
      fits width (pos + 3)
      decodeFrom (.ofNat unit :: done) (pos + 3)
    else fault (.invalidByte bytes[pos] pos)
  else .ok done.reverse
termination_by bytes.length - pos

def decodeUnits : Except Stop (List UInt16) := decodeFrom width bytes [] 0

def ofModifiedUtf8 : Except Stop Constant := do
  let units ← decodeUnits width bytes
  match Text.Utf16.decode? units with
  | some text => return .utf8 text
  | none => return .rawUtf8 bytes

end Text

section Data

variable (data : List UInt8)

/-- The number of bytes that are left stays at zero behind the end. -/
def bytes (n : Nat) : Run Cursor (List UInt8) := do
  let c ← get
  let available := data.length - c.pos
  if n > available then throw (.error (.outOfBounds c.pos n available))
  else do
    ofExcept (fits width (c.pos + n))
    let taken ← ofExcept (slice data c.pos (c.pos + n))
    set (Cursor.startAt data (c.pos + n))
    return taken

def unsigned (n : Nat) : Run Cursor Nat := BigEndian.ofBytes <$> bytes width data n

def u1 : Run Cursor UInt8 := UInt8.ofNat <$> unsigned width data 1

def u2 : Run Cursor UInt16 := UInt16.ofNat <$> unsigned width data 2

def u4 : Run Cursor UInt32 := UInt32.ofNat <$> unsigned width data 4

def u8 : Run Cursor UInt64 := UInt64.ofNat <$> unsigned width data 8

def i4 : Run Cursor Int32 := UInt32.toInt32 <$> u4 width data

def i8 : Run Cursor Int64 := UInt64.toInt64 <$> u8 width data

def readFields : Tag → Run Cursor Constant
  | .utf8 => do
    let length ← u2 width data
    let text ← bytes width data length.toNat
    ofExcept (ofModifiedUtf8 width text)
  | .integer => .integer <$> i4 width data
  | .float => .float <$> u4 width data
  | .long => .long <$> i8 width data
  | .double => .double <$> u8 width data
  | .classRef => .classRef <$> u2 width data
  | .string => .string <$> u2 width data
  | .fieldRef => .fieldRef <$> u2 width data <*> u2 width data
  | .methodRef => .methodRef <$> u2 width data <*> u2 width data
  | .interfaceMethodRef => .interfaceMethodRef <$> u2 width data <*> u2 width data
  | .nameAndType => .nameAndType <$> u2 width data <*> u2 width data
  | .methodHandle => .methodHandle <$> u1 width data <*> u2 width data
  | .methodType => .methodType <$> u2 width data
  | .dynamic => .dynamic <$> u2 width data <*> u2 width data
  | .invokeDynamic => .invokeDynamic <$> u2 width data <*> u2 width data
  | .moduleRef => .moduleRef <$> u2 width data
  | .packageRef => .packageRef <$> u2 width data

def position : Run Cursor Nat := fun c => .ok c.pos c

def readConstant : Run Cursor Constant := do
  let offset ← position
  let code ← u1 width data
  match Tag.ofCode? code with
  | some tag => readFields width data tag
  | none => throw (.error (.malformed (.unknownTag code offset)))

def indexFits (pool : Pool) : Except Stop Unit := do
  fits 16 pool.size
  fits 16 (pool.size + 1)

def readEntries (count : UInt16) (pool : Pool) : Run Cursor Pool := do
  ofExcept (indexFits pool)
  if pool.size + 1 < count.toNat then do
    let entry ← readConstant width data
    ofExcept (indexFits pool)
    ofExcept (fits 32 (pool.size + 1 + entry.slots))
    if pool.size + 1 + entry.slots > count.toNat then
      throw (.error (.malformed (.overrun entry.tag pool.nextIndex count)))
    else readEntries count (pool.push entry)
  else return pool
termination_by count.toNat - pool.size
decreasing_by
  have := entry.slots_pos
  rw [Pool.size_push]
  omega

def readPool : Run Cursor Pool := do
  let count ← u2 width data
  if count = 0 then throw (.error (.malformed .zeroCount))
  else readEntries width data count .empty

variable (pool : Pool)

def entryAt (index : UInt16) : Except Stop Constant :=
  if index = 0 then .error (.error (.invalidReference index .zero))
  else do
    reaches index.toNat 1
    match pool.slots[index.toNat - 1]? with
    | some (some entry) => .ok entry
    | some none => .error (.error (.invalidReference index .secondSlot))
    | none => .error (.error (.invalidReference index (.outOfRange pool.size)))

def textAt (index : UInt16) : Except Stop String :=
  match entryAt pool index with
  | .ok (.utf8 text) => .ok text
  | .ok (.rawUtf8 _) => .error (.error (.invalidReference index .unpairedSurrogate))
  | .ok entry => .error (.error (.invalidReference index (.notUtf8 entry.tag)))
  | .error stop => .error stop

def readText : Run Reader String := do
  let index ← u2 width data
  ofExcept (textAt pool index)

def trace (tracing : Tracing) (render : UInt32 → String) : Run Reader Unit :=
  modify fun r => { r with shown := r.shown ++ tracing.lines render }

def readAttribute (tracing : Tracing) : Run Reader Attribute := do
  let name ← readText width data pool
  let length ← u4 width data
  trace tracing (Attribute.summary name length)
  ofExcept (fits width length.toNat)
  let info ← bytes width data length.toNat
  return ⟨name, info⟩

def readHeader : Run Reader Method.Header := do
  let word ← u2 width data
  let name ← readText width data pool
  let descriptor ← readText width data pool
  let count ← u2 width data
  return ⟨name, descriptor, word, count.toNat⟩

/-- The depth of the attributes is taken also if none follows or no line is shown. -/
def nested (tracing : Tracing) : Except Stop Tracing :=
  match tracing.depth with
  | none => .ok tracing
  | some depth => do
    fits 32 (depth.toNat + 2)
    return { tracing with depth := some (.ofNat (depth.toNat + 2)) }

def readMethod (tracing : Tracing) : Run Reader Method := do
  let header ← readHeader width data pool
  trace tracing header.render
  let deeper ← ofExcept (nested tracing)
  let attributes ← (List.replicate header.attributeCount ()).mapM fun _ =>
    readAttribute width data pool deeper
  return .ofParts header.name header.descriptor (.ofWord header.word) attributes

end Data

end ClassFile.Guarded
