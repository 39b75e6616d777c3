import ClassFile.Method.Header

namespace ClassFile.Method

def maxAttributes : Nat := 65535

def read (pool : Pool) (tracing : Tracing) : ReadRecord Method := do
  let word ← Read.u2
  let name ← ReadRecord.text pool
  let descriptor ← ReadRecord.text pool
  let count ← Read.u2
  ReadRecord.trace tracing (Header.render ⟨name, descriptor, word, count.toNat⟩)
  let attributes ← (List.replicate count.toNat ()).mapM fun _ => Attribute.read pool tracing.nested
  return ofParts name descriptor (.ofWord word) attributes

def resolve (m : Method) : Intern Unit := do
  let _ ← Intern.addText m.name
  let _ ← Intern.addText m.descriptor
  m.attributes.forM Attribute.resolve

def write (pool : Pool) (m : Method) : Write Unit := do
  if m.attributes.length > maxAttributes then
    throw (.malformed (.tooManyAttributes m.name m.attributes.length))
  Write.u2 m.flags.word
  Write.text pool m.name
  Write.text pool m.descriptor
  Write.u2 (.ofNat m.attributes.length)
  m.attributes.forM (Attribute.write pool)

end ClassFile.Method
