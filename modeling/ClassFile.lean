import ClassFile.Fragment
import ClassFile.Method.Draft
import ClassFile.Method.Validation
import ClassFile.Proofs.Constant.Form
import ClassFile.Proofs.Spans
import ClassFile.Proofs.Text.ModifiedUtf8
import ClassFile.Proofs.Text.Utf16
import ClassFile.Proofs.Pool.Lookup
import ClassFile.Proofs.Pool.Form
import ClassFile.Proofs.Pool.Interning
import ClassFile.Proofs.Pool.Representation
import ClassFile.Proofs.Flags.Word
import ClassFile.Proofs.Record
import ClassFile.Proofs.Method.Stored
import ClassFile.Proofs.Method.Canonical
import ClassFile.Proofs.Fragment.RoundTrip
import ClassFile.Proofs.Constant.Text
import ClassFile.Proofs.Pool.Lossless
import ClassFile.Proofs.Pool.Stability
import ClassFile.Proofs.Text.Utf8
import ClassFile.Proofs.Descriptor.FieldType
import ClassFile.Proofs.Descriptor.Grammar
import ClassFile.Proofs.Step.Fault
import ClassFile.Proofs.Layout
import ClassFile.Proofs.Method.Writing
import ClassFile.Proofs.Pool.Resolving
import ClassFile.Proofs.Step.Composed
import ClassFile.Proofs.Reading
import ClassFile.Proofs.Truncation
import ClassFile.Proofs.Location
import ClassFile.Proofs.Constant.RoundTrip
import ClassFile.Proofs.Pool.Recall
import ClassFile.Proofs.Method.Transcript
import ClassFile.Proofs.Descriptor.Faults
import ClassFile.Proofs.Descriptor.Viable
import ClassFile.Proofs.Validation.Groups
import ClassFile.Proofs.Validation.Initializer
import ClassFile.Proofs.Descriptor.Words
import ClassFile.Proofs.Validation.Legal
import ClassFile.Proofs.Descriptor.Checked
import ClassFile.Proofs.Descriptor.Boundaries
import ClassFile.Proofs.Method.Drafting
import ClassFile.Proofs.Text.Lines
import ClassFile.Proofs.Method.Rendering
import ClassFile.Proofs.Overflow.Guarded
import ClassFile.Proofs.Overflow.Text
import ClassFile.Proofs.Overflow.Agreement
import ClassFile.Proofs.Validation.ClassInitializer
import ClassFile.Proofs.Constant.Payload
import ClassFile.Proofs.Pool.TextLimit
