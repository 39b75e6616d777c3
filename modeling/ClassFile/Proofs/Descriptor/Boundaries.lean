import ClassFile.Proofs.Descriptor.Checked
import ClassFile.Proofs.Descriptor.Faults

namespace ClassFile

open Text

lemma Text.offsetOf?_of_not_mem {a : Char} {cs : List Char} (h : a ∉ cs) :
    offsetOf? a cs = none := by
  induction cs with
  | nil => rfl
  | cons c cs ih =>
    rw [List.mem_cons, not_or] at h
    rw [offsetOf?, if_neg (Ne.symm h.1), ih h.2]
    rfl

lemma Text.offsetOf?_append {a : Char} {cs : List Char} (h : a ∉ cs) (ds : List Char) :
    offsetOf? a (cs ++ a :: ds) = some (Utf8.encodeChars cs).length := by
  induction cs with
  | nil => exact if_pos rfl
  | cons c cs ih =>
    rw [List.mem_cons, not_or] at h
    rw [List.cons_append, offsetOf?, if_neg (Ne.symm h.1), ih h.2]
    simp [Utf8.encodeChars]

namespace Descriptor.Checked

variable {whole : String} {c d : Cursor} {α β : Type}

def AtChar (whole : String) (c : Cursor) : Prop :=
  ∃ front back : String, whole = front ++ back ∧ c.pos = front.utf8ByteSize ∧
    c.rest = Utf8.encode back

lemma atChar_start : AtChar whole (.ofBytes (Utf8.encode whole)) :=
  ⟨"", whole, by simp, rfl, rfl⟩

lemma AtChar.of_spans {cs : List Char} (h : AtChar whole c)
    (hs : c.Spans (Utf8.encodeChars cs) d) : AtChar whole d := by
  obtain ⟨front, back, rfl, hpos, hrest⟩ := h
  -- Bytes that are the encoding of `cs` stand in front only where the text itself begins with `cs`.
  obtain ⟨es, hback, hes⟩ := Utf8.encodeChars_eq_append (hrest.symm.trans hs.1)
  obtain rfl : back = .ofList cs ++ .ofList es := by
    rw [← String.toList_inj, hback]
    simp
  refine ⟨front ++ .ofList cs, .ofList es, (String.append_assoc ..).symm, ?_, ?_⟩
  · rw [hs.2, hpos, ← Utf8.encode_ofList, Utf8.length_encode, String.utf8ByteSize_append]
  · rw [Utf8.encode_ofList, hes]

lemma AtChar.of_byte {a : Char} (h : AtChar whole c) (ha : Utf8.IsAscii a)
    (hs : c.Spans [a.toUInt8] d) : AtChar whole d := by
  have hform : Utf8.encodeChars [a] = [a.toUInt8] := by
    rw [Utf8.encodeChars_cons ha, Utf8.encodeChars_nil]
  exact h.of_spans (hform ▸ hs)

/-- The runs end alike. A text is refused for the same fault, which is never a broken character;
the cursor may then be left at different places. -/
inductive Agree (whole : String) :
    EStateM.Result Stop Cursor α → EStateM.Result Error Cursor α → Prop
  | ok (a : α) (d : Cursor) : Agree whole (.ok a d) (.ok a d)
  | refused {fault : Fault} (d e : Cursor) : (∀ pos, fault ≠ .brokenCharacter pos) →
      Agree whole (.error (.error (.malformed (.descriptor whole fault))) d)
        (.error (.malformed (.descriptor whole fault)) e)

lemma agree_fail {fault : Fault} (h : ∀ pos, fault ≠ .brokenCharacter pos) :
    Agree whole ((fail whole fault : Run α) c) ((Parser.fail whole fault : Read α) d) :=
  .refused c d h

lemma Agree.bind {x : Run α} {y : Read α} {f : α → Run β} {g : α → Read β}
    (h : Agree whole (x c) (y c))
    (hf : ∀ a d, y c = .ok a d → Agree whole (f a d) (g a d)) :
    Agree whole ((x >>= f) c) ((y >>= g) c) := by
  simp only [Bind.bind, EStateM.bind]
  generalize y c = r at h hf ⊢
  generalize x c = r' at h ⊢
  cases h with
  | ok a d => exact hf a d rfl
  | refused d e hfault => exact .refused d e hfault

lemma Agree.eq_ok {r : EStateM.Result Stop Cursor α} {a : α} (h : Agree whole r (.ok a d)) :
    r = .ok a d := by
  cases h
  rfl

lemma Agree.map {x : Run α} {y : Read α} (f : α → β) (h : Agree whole (x c) (y c)) :
    Agree whole ((f <$> x) c) ((f <$> y) c) := by
  rw [map_eq_pure_bind, map_eq_pure_bind]
  exact h.bind fun a d _ => .ok (f a) d

lemma ofRead_of_ok {x : Read α} {a : α} (h : x c = .ok a d) : ofRead x c = .ok a d := by
  rw [ofRead, h]

lemma position_bind {f : Nat → Run α} : (ofRead Read.position >>= f) c = f c.pos c := rfl

lemma peek?_bind {f : Option UInt8 → Run α} : (ofRead Read.peek? >>= f) c = f c.rest.head? c := rfl

lemma attempt_of_ok {x : Read α} {a : α} (h : x c = .ok a d) : attempt x c = .ok (some a) d := by
  rw [attempt, h]

lemma attempt_u1_of_end (h : c.rest.head? = none) : attempt Read.u1 c = .ok none c := by
  obtain ⟨pos, rest⟩ := c
  obtain rfl : rest = [] := List.head?_eq_none_iff.mp h
  rfl

lemma cut_of_front {front back : String} :
    cut (front ++ back) front.utf8ByteSize c = .ok (front, back) c := by
  rw [cut, Text.splitAt?_append]

section ClassName

variable {front back name more : String}

lemma className_unterminated (h : ';' ∉ back.toList) (hpos : c.pos = front.utf8ByteSize)
    (hrest : c.rest = Utf8.encode back) :
    Agree (front ++ back) (className (front ++ back) c) (Parser.className (front ++ back) c) := by
  have hscan : Read.takeWhile (fun b => b ≠ Parser.semicolon) c =
      .ok (Utf8.encode back) ⟨c.pos + (Utf8.encode back).length, []⟩ := by
    refine Read.takeWhile_ok_iff.mpr ⟨fun b hb => ?_, by simp, ?_, rfl⟩
    · have hne : b ≠ Parser.semicolon := fun heq => h (Parser.semicolon_mem_encode.mp (heq ▸ hb))
      simpa using hne
    · rw [hrest, List.append_nil]
  rw [className, position_bind, hpos, Step.bind_of_ok cut_of_front,
    Parser.className, Parser.position_bind, Step.bind_of_ok hscan, Read.peek?_bind, hpos]
  dsimp only
  rw [offsetOf?_of_not_mem h]
  exact agree_fail (by simp)

lemma className_terminated (h : ';' ∉ name.toList) (hpos : c.pos = front.utf8ByteSize)
    (hrest : c.rest = Utf8.encode (name ++ (";" ++ more))) :
    Agree (front ++ (name ++ (";" ++ more))) (className (front ++ (name ++ (";" ++ more))) c)
      (Parser.className (front ++ (name ++ (";" ++ more))) c) := by
  obtain ⟨e, hspans⟩ : ∃ e, c.Spans (Utf8.encode name ++ [Parser.semicolon]) e := by
    refine ⟨⟨_, Utf8.encode more⟩, ?_, rfl⟩
    rw [hrest, Utf8.encode_append, Utf8.encode_append, List.append_assoc]
    rfl
  have hlength : (Utf8.encode name ++ [Parser.semicolon]).length = name.utf8ByteSize + 1 := by
    rw [List.length_append, Utf8.length_encode]
    rfl
  have hbytes := Read.bytes_ok_iff.mpr ⟨hlength, hspans⟩
  obtain ⟨d, hs, hs'⟩ := Cursor.spans_append.mp hspans
  have hhead := hs'.head?_rest rfl
  have hscan := (Parser.scan_ok_iff hhead).mpr ⟨rfl, Parser.semicolon_mem_encode.not.mpr h, hs⟩
  -- The search in the text stops where the scan of its bytes does.
  have hoffset : offsetOf? ';' (name ++ (";" ++ more)).toList = some name.utf8ByteSize := by
    rw [String.toList_append, String.toList_append, ← Utf8.length_encode]
    exact offsetOf?_append h more.toList
  rw [className, position_bind, hpos, Step.bind_of_ok cut_of_front,
    Parser.className, Parser.position_bind, Step.bind_of_ok hscan, Read.peek?_bind, hhead,
    Utf8.decode?_encode]
  dsimp only
  rw [hoffset]
  dsimp only
  rw [Step.bind_of_ok cut_of_front]
  dsimp only
  split_ifs with hclass
  · rw [Step.bind_of_ok (ofRead_of_ok hbytes), Step.bind_of_ok (Read.byte_ok_iff.mpr hs')]
    exact .ok name e
  · exact agree_fail (by simp)

lemma className_agrees (h : AtChar whole c) :
    Agree whole (className whole c) (Parser.className whole c) := by
  obtain ⟨front, back, rfl, hpos, hrest⟩ := h
  by_cases hsemi : ';' ∈ back.toList
  · obtain ⟨cs, ds, hback, hname⟩ := List.eq_append_cons_of_mem hsemi
    obtain rfl : back = .ofList cs ++ (";" ++ .ofList ds) := by
      rw [← String.toList_inj, hback]
      simp
    exact className_terminated (by rwa [String.toList_ofList]) hpos hrest
  · exact className_unterminated hsemi hpos hrest

end ClassName

lemma baseType_agrees (h : AtChar whole c) :
    Agree whole (baseType whole c) (Parser.baseType whole c) := by
  rw [Parser.baseType, Parser.position_bind, Read.peek?_bind, baseType]
  cases hhead : c.rest.head? with
  | none =>
    rw [Step.bind_of_ok (attempt_u1_of_end hhead)]
    exact agree_fail (by simp)
  | some b =>
    have hread := Parser.u1_of_head? hhead
    rw [Step.bind_of_ok (attempt_of_ok hread)]
    dsimp only
    rw [Step.bind_of_ok hread]
    cases Primitive.ofLetter? b with
    | some p => exact .ok _ _
    | none =>
      dsimp only
      split_ifs with hobject
      · subst hobject
        have hnext : AtChar whole (c.advance 1) :=
          h.of_byte (by decide : Utf8.IsAscii 'L') (Read.byte_ok_iff.mp hread)
        exact (className_agrees hnext).bind fun name d _ => .ok _ d
      · exact agree_fail (by simp)

lemma brackets_of_spans {n dims : Nat} (hs : c.Spans (List.replicate n Parser.bracket) d)
    (hd : d.rest.head? ≠ some Parser.bracket) : brackets dims c = .ok (dims + n) d := by
  induction n generalizing dims c with
  | zero =>
    obtain rfl := Cursor.spans_nil.mp hs
    rw [brackets, if_neg hd]
    rfl
  | succ n ih =>
    rw [List.replicate_succ, ← List.singleton_append] at hs
    obtain ⟨m, hm, hs⟩ := Cursor.spans_append.mp hs
    have hread := ofRead_of_ok (Read.byte_ok_iff.mpr hm)
    rw [brackets, if_pos (hm.head?_rest rfl)]
    split
    · next hr =>
      rw [hread] at hr
      cases hr
    · next hr =>
      rw [hread] at hr
      cases hr
      rw [ih hs, Nat.add_assoc, Nat.add_comm 1]

lemma fieldType_agrees (h : AtChar whole c) :
    Agree whole (fieldType whole c) (Parser.fieldType whole c) := by
  obtain ⟨found, d, hscan⟩ : ∃ found d,
      Read.takeWhile (fun b => b = Parser.bracket) c = .ok found d := ⟨_, _, rfl⟩
  obtain ⟨hall, hhead, hs⟩ := Read.takeWhile_ok_iff.mp hscan
  have hfound : found = List.replicate found.length Parser.bracket :=
    List.eq_replicate_of_mem fun b hb => by simpa using hall b hb
  rw [hfound] at hs
  have hcount : brackets 0 c = .ok found.length d := by
    rw [brackets_of_spans hs fun hb => by simpa using hhead _ hb, Nat.zero_add]
  have hd : AtChar whole d := by
    rw [← Parser.encodeChars_brackets] at hs
    exact h.of_spans hs
  rw [fieldType, Step.bind_of_ok hcount, Parser.fieldType, Step.bind_of_ok hscan]
  split_ifs
  · exact agree_fail (by simp)
  · exact (baseType_agrees hd).bind fun base d _ => .ok _ d

lemma atChar_of_fieldType {type : FieldType} (h : AtChar whole c)
    (hf : Parser.fieldType whole c = .ok type d) : AtChar whole d :=
  h.of_spans (Parser.fieldType_ok_iff.mp hf).2

lemma params_of_end {done : List FieldType} (h : c.rest.head? = none) :
    params whole done c = fail whole .noClosing c := by
  rw [params, h]

lemma params_of_closing {done : List FieldType} (h : c.rest.head? = some Parser.closing) :
    params whole done c = .ok done.reverse c := by
  rw [params, h]
  exact if_pos rfl

section FirstType

variable {done : List FieldType} {b : UInt8}

lemma params_of_stop {stop : Stop} (h : c.rest.head? = some b) (hb : b ≠ Parser.closing)
    (hf : fieldType whole c = .error stop d) : params whole done c = .error stop d := by
  rw [params, h]
  dsimp only
  rw [if_neg hb]
  split
  · next he =>
    rw [hf] at he
    cases he
    rfl
  · next he =>
    rw [hf] at he
    cases he

lemma params_of_fieldType {type : FieldType} (h : c.rest.head? = some b)
    (hb : b ≠ Parser.closing) (hf : fieldType whole c = .ok type d) :
    params whole done c = params whole (type :: done) d := by
  rw [params, h]
  dsimp only
  rw [if_neg hb]
  split
  · next he =>
    rw [hf] at he
    cases he
  · next he =>
    rw [hf] at he
    cases he
    rfl

end FirstType

lemma params_agrees {done : List FieldType} (h : AtChar whole c) :
    Agree whole (params whole done c) (Parser.params whole done c) := by
  -- On the run of the parser; each type leaves the cursor at a character again.
  fun_induction Parser.params whole done c with
  | case1 done c hc =>
    rw [params_of_end (by rw [hc]; rfl)]
    exact agree_fail (by simp)
  | case2 done c rest hc =>
    rw [params_of_closing (by rw [hc]; rfl)]
    exact .ok _ c
  | case3 done c b rest hc hne e m hf =>
    have hagree := fieldType_agrees h
    rw [hf] at hagree
    have hhead : c.rest.head? = some b := by rw [hc]; rfl
    generalize hr : fieldType whole c = r at hagree
    cases hagree with
    | refused d _ hfault =>
      rw [params_of_stop hhead hne hr]
      exact .refused d m hfault
  | case4 done c b rest hc hne type m hf _ ih =>
    have hagree := fieldType_agrees h
    rw [hf] at hagree
    have hhead : c.rest.head? = some b := by rw [hc]; rfl
    rw [params_of_fieldType hhead hne hagree.eq_ok]
    exact ih (atChar_of_fieldType h hf)

lemma returnType_agrees (h : AtChar whole c) :
    Agree whole (returnType whole c) (Parser.returnType whole c) := by
  rw [returnType, peek?_bind, Parser.returnType, Read.peek?_bind]
  cases hhead : c.rest.head? with
  | none => exact (fieldType_agrees h).map some
  | some b =>
    dsimp only
    split_ifs with hvoid
    · have hread := Parser.u1_of_head? hhead
      rw [Step.bind_of_ok (ofRead_of_ok hread), Step.bind_of_ok hread]
      exact .ok none _
    · exact (fieldType_agrees h).map some

lemma descriptor_agrees (h : AtChar whole c) :
    Agree whole (descriptor whole c) (Parser.descriptor whole c) := by
  rw [Parser.descriptor_eq, descriptor]
  cases hhead : c.rest.head? with
  | none =>
    rw [Step.bind_of_ok (attempt_u1_of_end hhead)]
    exact agree_fail (by simp)
  | some b =>
    have hread := Parser.u1_of_head? hhead
    rw [Step.bind_of_ok (attempt_of_ok hread)]
    dsimp only
    by_cases hopening : b = Parser.opening
    · subst hopening
      rw [if_neg (not_not_intro rfl), if_pos rfl, Parser.body, Step.bind_of_ok hread]
      have hnext : AtChar whole (c.advance 1) :=
        h.of_byte (by decide : Utf8.IsAscii '(') (Read.byte_ok_iff.mp hread)
      refine (params_agrees hnext).bind fun types m hp => ?_
      obtain ⟨_, -, -, hclose, hs⟩ := Parser.params_sound hp
      have hread := Parser.u1_of_head? hclose
      rw [Step.bind_of_ok (ofRead_of_ok hread), Step.bind_of_ok hread]
      have hbehind : AtChar whole (m.advance 1) :=
        (hnext.of_spans hs).of_byte (by decide : Utf8.IsAscii ')') (Read.byte_ok_iff.mp hread)
      refine (returnType_agrees hbehind).bind fun ret e _ => ?_
      rw [peek?_bind, Read.peek?_bind]
      cases e.rest.head? with
      | none => exact .ok _ e
      | some b => exact agree_fail (by simp)
    · rw [if_pos hopening, if_neg fun hb => hopening (Option.some.inj hb)]
      exact agree_fail (by simp)

end Checked

theorem parse_checked (text : String) :
    (∃ d, parse text = .ok d ∧ Checked.parse text = .ok d) ∨
      ∃ fault, (∀ pos, fault ≠ .brokenCharacter pos) ∧
        parse text = .error (.malformed (.descriptor text fault)) ∧
          Checked.parse text = .error (.error (.malformed (.descriptor text fault))) := by
  have hstart : Checked.AtChar text (.ofBytes (Utf8.encode text)) := Checked.atChar_start
  have hagree := Checked.descriptor_agrees hstart
  rw [parse, Checked.parse]
  generalize Parser.descriptor text (.ofBytes (Utf8.encode text)) = r at hagree ⊢
  generalize Checked.descriptor text (.ofBytes (Utf8.encode text)) = r' at hagree ⊢
  cases hagree with
  | ok d _ => exact .inl ⟨d, rfl, rfl⟩
  | @refused fault _ _ hfault => exact .inr ⟨fault, hfault, rfl, rfl⟩

end Descriptor

end ClassFile
