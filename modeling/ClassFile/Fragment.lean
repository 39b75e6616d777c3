import ClassFile.Method.Codec
import ClassFile.Pool.Codec

namespace ClassFile

structure Fragment where
  pool : Pool
  methods : List Method

namespace Fragment

inductive Stage where
  | pool
  | count
  | method (number : Nat)
deriving DecidableEq

structure Fault where
  stage : Stage
  error : Error

def during {α : Type} (stage : Stage) (read : Read α) : EStateM Fault Cursor α := fun c =>
  match read c with
  | .ok a d => .ok a d
  | .error error d => .error ⟨stage, error⟩ d

def read : EStateM Fault Cursor Fragment := do
  let pool ← during .pool Pool.read
  let count ← during .count Read.u2
  let methods ← (List.range count.toNat).mapM fun i =>
    during (.method i) (ReadRecord.quietly (Method.read pool .silent))
  return ⟨pool, methods⟩

def write (fragment : Fragment) : Write Unit := do
  fragment.pool.write
  Write.u2 (.ofNat fragment.methods.length)
  fragment.methods.forM (Method.write fragment.pool)

end Fragment

end ClassFile
