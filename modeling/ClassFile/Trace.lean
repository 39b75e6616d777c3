import ClassFile.Pool.Basic
import ClassFile.Text.Lines

namespace ClassFile.Trace

/-- How much is shown; each level shows what the levels before it show. -/
inductive Level where
  | off | info | debug | trace
deriving DecidableEq

def Level.rank : Level → Nat
  | off => 0
  | info => 1
  | debug => 2
  | trace => 3

def Level.shows (level line : Level) : Bool := line.rank ≤ level.rank

inductive Line where
  | record (text : String)
  | interned (index : UInt16) (entry : Constant)

namespace Line

def level : Line → Level
  | record _ => .debug
  | interned .. => .trace

def text : Line → String
  | record text => text
  | interned index entry =>
    let entry := entry.describe
    let index := index.toNat
    s!"interning {entry} at #{index}"

end Line

def interned (level : Level) (size : Nat) (pool : Pool) : List Line :=
  if level.shows .trace then
    (pool.entriesFrom size).map fun (index, entry) => .interned index entry
  else []

def indent (depth : UInt32) : String :=
  .ofList (List.replicate (4 * depth.toNat) ' ')

end Trace

structure Tracing where
  level : Trace.Level
  depth : Option UInt32

namespace Tracing

def silent : Tracing := ⟨.off, none⟩

def nested (tracing : Tracing) : Tracing :=
  { tracing with depth := tracing.depth.map (· + 2) }

def lines (tracing : Tracing) (render : UInt32 → String) : List Trace.Line :=
  match tracing.depth with
  | some depth =>
    if tracing.level.shows .debug then (Text.Lines.lines (render depth)).map .record else []
  | none => []

end Tracing

end ClassFile
