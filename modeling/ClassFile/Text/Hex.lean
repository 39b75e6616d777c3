namespace ClassFile.Text.Hex

def digits (n : Nat) : List Char :=
  Nat.toDigits 16 n

def padded (width n : Nat) : List Char :=
  (digits n).leftpad width '0'

end ClassFile.Text.Hex
