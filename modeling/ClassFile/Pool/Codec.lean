import ClassFile.Pool.Basic

namespace ClassFile.Pool

/-- Appends entries read from the input until the pool fills `count`. Every entry keeps the index
it has in the input, and a wide one must not reach past the count. -/
def readEntries (count : UInt16) (pool : Pool) : Read Pool :=
  if pool.size + 1 < count.toNat then do
    let entry ← Constant.read
    if pool.size + 1 + entry.slots > count.toNat then
      throw (.malformed (.overrun entry.tag pool.nextIndex count))
    else readEntries count (pool.push entry)
  else return pool
termination_by count.toNat - pool.size
decreasing_by
  have := entry.slots_pos
  rw [size_push]
  omega

def read : Read Pool := do
  let count ← Read.u2
  if count = 0 then throw (.malformed .zeroCount)
  readEntries count empty

def write (pool : Pool) : Write Unit := do
  Write.u2 pool.nextIndex
  pool.entries.forM fun (_, entry) => entry.write

end ClassFile.Pool
