import ClassFile.BigEndian
import ClassFile.Error

/-! Appending to a byte buffer. What a failed write has appended before its fault stays. -/

namespace ClassFile

abbrev Output := Array UInt8

abbrev Write := EStateM Error Output

namespace Write

def bytes (data : List UInt8) : Write Unit :=
  modify fun (out : Output) => out ++ data

def u1 (n : UInt8) : Write Unit := bytes (BigEndian.toBytes 1 n.toNat)

def u2 (n : UInt16) : Write Unit := bytes (BigEndian.toBytes 2 n.toNat)

def u4 (n : UInt32) : Write Unit := bytes (BigEndian.toBytes 4 n.toNat)

def u8 (n : UInt64) : Write Unit := bytes (BigEndian.toBytes 8 n.toNat)

def i4 (n : Int32) : Write Unit := u4 n.toUInt32

def i8 (n : Int64) : Write Unit := u8 n.toUInt64

end Write

end ClassFile
