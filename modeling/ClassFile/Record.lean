import ClassFile.Cursor
import ClassFile.Output
import ClassFile.Trace

/-! Records that refer to strings by pool index. Reading takes the string at once; writing looks the
index up and never interns. -/

namespace ClassFile

structure Reader where
  cursor : Cursor
  shown : Array Trace.Line

abbrev ReadRecord := EStateM Error Reader

namespace ReadRecord

instance : MonadLift Read ReadRecord where
  monadLift read := fun r =>
    match read r.cursor with
    | .ok a cursor => .ok a { r with cursor }
    | .error e cursor => .error e { r with cursor }

def trace (tracing : Tracing) (render : UInt32 → String) : ReadRecord Unit :=
  modify fun r => { r with shown := r.shown ++ tracing.lines render }

def text (pool : Pool) : ReadRecord String := do
  let index ← Read.u2
  ofExcept (pool.textAt index)

def quietly {α : Type} (read : ReadRecord α) : Read α := fun cursor =>
  match read ⟨cursor, #[]⟩ with
  | .ok a r => .ok a r.cursor
  | .error e r => .error e r.cursor

end ReadRecord

def Write.text (pool : Pool) (text : String) : Write Unit := do
  let index ← ofExcept (pool.indexOfText text)
  Write.u2 index

end ClassFile
