import ClassFile.Constant.Basic
import ClassFile.Descriptor.Fault
import ClassFile.Text.ModifiedUtf8

namespace ClassFile

inductive Malformation where
  | unknownTag (code : UInt8) (offset : Nat)
  | text (fault : Text.ModifiedUtf8.Fault)
  | textTooLong (length : Nat)
  | zeroCount
  | overrun (tag : Tag) (index count : UInt16)
  | payloadTooLong (name : String) (length : Nat)
  | tooManyAttributes (name : String) (count : Nat)
  | descriptor (whole : String) (fault : Descriptor.Fault)
deriving DecidableEq

inductive BadReference where
  | zero
  | secondSlot
  | outOfRange (slots : Nat)
  | notUtf8 (found : Tag)
  | unpairedSurrogate
deriving DecidableEq

inductive Error where
  | malformed (cause : Malformation)
  | outOfBounds (offset needed available : Nat)
  | invalidReference (index : UInt16) (reason : BadReference)
  | unresolvedText (text : String)
  | unresolvedEntry (entry : Constant)
  | poolOverflow
deriving DecidableEq

namespace Malformation

def message : Malformation → String
  | unknownTag code offset =>
    let code := code.toNat
    s!"Unknown constant pool tag {code} at offset {offset}"
  | text fault => fault.message
  | textTooLong length => s!"Utf8 constant of {length} bytes exceeds the u2 length field"
  | zeroCount => "constant_pool_count must be at least 1"
  | overrun tag index count =>
    let name := tag.name
    let index := index.toNat
    let count := count.toNat
    s!"{name} entry at index {index} overruns constant_pool_count {count}"
  | payloadTooLong name length =>
    s!"Attribute {name} payload of {length} bytes exceeds the u4 length field"
  | tooManyAttributes name count =>
    s!"Method {name} has {count} attributes, the count field holds at most 65535"
  | descriptor whole fault =>
    let quoted := Text.Quoted.quoteString whole
    let clause := fault.clause
    s!"Method descriptor {quoted} {clause}"

end Malformation

namespace BadReference

def message : BadReference → String
  | zero => "index 0 is never valid"
  | secondSlot => "slot follows a Long or Double entry"
  | outOfRange slots => s!"out of range, the pool has {slots} slot(s)"
  | notUtf8 found =>
    let name := found.name
    s!"expected a Utf8 entry, found {name}"
  | unpairedSurrogate => "Utf8 entry holds an unpaired surrogate and has no string form"

end BadReference

namespace Error

def message : Error → String
  | malformed cause => cause.message
  | outOfBounds offset needed available =>
    s!"Out of bound read at offset {offset}: needed {needed} byte(s), {available} available"
  | invalidReference index reason =>
    let index := index.toNat
    let reason := reason.message
    s!"Invalid constant pool reference #{index}: {reason}"
  | unresolvedText text =>
    s!"Value was never resolved into the constant pool - Utf8 \"{text}\""
  | unresolvedEntry entry =>
    let entry := entry.describe
    s!"Value was never resolved into the constant pool - {entry}"
  | poolOverflow => "The constant pool is full"

end Error

end ClassFile
