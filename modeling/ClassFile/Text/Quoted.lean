import ClassFile.Text.DefaultIgnorable
import ClassFile.Text.GraphemeExtend
import ClassFile.Text.Hex
import ClassFile.Text.Unprintable

/-! Characters and strings between quotes, on one line and in visible characters only. -/

namespace ClassFile.Text.Quoted

def shortEscape? (quote c : Char) : Option Char :=
  if c = '\x00' then some '0'
  else if c = '\t' then some 't'
  else if c = '\n' then some 'n'
  else if c = '\r' then some 'r'
  else if c = '\\' ∨ c = quote then some c
  else none

/-- The halfwidth sound marks extend graphemes, yet have a form and a width of their own. -/
def isSoundMark (c : Char) : Bool := c = '\uff9e' || c = '\uff9f'

def isAttached (c : Char) : Bool := graphemeExtend.contains c && !isSoundMark c

def isHidden (c : Char) : Bool :=
  !(0x20 ≤ c.toNat && c.toNat < 0x7F) &&
    (isAttached c || defaultIgnorable.contains c || unprintable.contains c)

def escape (quote c : Char) : List Char :=
  match shortEscape? quote c with
  | some letter => ['\\', letter]
  | none =>
    if isHidden c then ['\\', 'u', '\x7b'] ++ Hex.digits c.toNat ++ ['\x7d'] else [c]

def quoteChar (c : Char) : String :=
  .ofList ('\'' :: escape '\'' c ++ ['\''])

def quoteString (s : String) : String :=
  .ofList ('"' :: s.toList.flatMap (escape '"') ++ ['"'])

end ClassFile.Text.Quoted
