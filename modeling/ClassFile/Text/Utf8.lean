namespace ClassFile.Text.Utf8

def encode (s : String) : List UInt8 :=
  s.toList.flatMap String.utf8EncodeChar

def decode? (bytes : List UInt8) : Option String :=
  String.fromUTF8? bytes.toByteArray

theorem toByteArray_encode (s : String) : (encode s).toByteArray = s.toByteArray := by
  rw [encode, ← List.utf8Encode, ← String.toByteArray_ofList, String.ofList_toList]

theorem decode?_encode (s : String) : decode? (encode s) = some s := by
  rw [decode?, toByteArray_encode, String.fromUTF8?, dif_pos s.isValidUTF8]
  rfl

theorem decode?_eq_some_iff {bytes : List UInt8} {s : String} :
    decode? bytes = some s ↔ bytes = encode s := by
  refine ⟨fun h => ?_, fun h => h ▸ decode?_encode s⟩
  rw [decode?, String.fromUTF8?] at h
  split at h
  · cases h
    have hb := toByteArray_encode (String.fromUTF8 bytes.toByteArray ‹_›)
    have he : (encode (String.fromUTF8 bytes.toByteArray ‹_›)).toByteArray = bytes.toByteArray := hb
    simpa using (congrArg (fun b : ByteArray => b.data.toList) he).symm
  · cases h

theorem encode_append (s t : String) : encode (s ++ t) = encode s ++ encode t := by
  simp [encode]

end ClassFile.Text.Utf8
