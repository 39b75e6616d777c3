/-! Lines of a text. Every line feed ends a line and takes with it one carriage return directly
before it; text after the last line feed is a line of its own, kept as it is. -/

namespace ClassFile.Text.Lines

def dropReturn (line : List Char) : List Char :=
  if line.getLast? = some '\r' then line.dropLast else line

def ofParts (parts : List (List Char)) : List (List Char) :=
  parts.dropLast.map dropReturn ++ parts.getLast?.toList.filter (· ≠ [])

def lines (text : String) : List String :=
  (ofParts (text.toList.splitOn '\n')).map .ofList

end ClassFile.Text.Lines
