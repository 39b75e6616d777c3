import ClassFile.Proofs.Descriptor.FieldType

namespace ClassFile

open Text

namespace Descriptor.Parser

variable {whole : String} {c d : Cursor}

lemma params_of_closing {done : List FieldType} (h : c.rest.head? = some closing) :
    params whole done c = .ok done.reverse c := by
  rw [params]
  split
  · next hc => simp [hc] at h
  · next byte rest hc =>
    obtain rfl : byte = closing := by simpa [hc] using h
    rw [if_pos rfl]

lemma params_of_fieldType {done : List FieldType} {type : FieldType} {b : UInt8}
    (h : c.rest.head? = some b) (hb : b ≠ closing) (hf : fieldType whole c = .ok type d) :
    params whole done c = params whole (type :: done) d := by
  rw [params]
  split
  · next hc => simp [hc] at h
  · next byte rest hc =>
    obtain rfl : byte = b := by simpa [hc] using h
    rw [if_neg hb]
    split
    · next he =>
      rw [hf] at he
      cases he
    · next he =>
      rw [hf] at he
      cases he
      rfl

lemma params_sound {done types : List FieldType} (h : params whole done c = .ok types d) :
    ∃ more, types = done.reverse ++ more ∧ (∀ type ∈ more, type.WellFormed) ∧
        d.rest.head? = some closing ∧
          c.Spans (Utf8.encodeChars (more.flatMap FieldType.chars)) d := by
  fun_induction params whole done c with
  | case1 => exact absurd h fail_ne_ok
  | case2 done c rest hc =>
    cases h
    exact ⟨[], by simp, by simp, by rw [hc]; rfl, Cursor.spans_nil.mpr rfl⟩
  | case3 => cases h
  | case4 done c byte rest hc hne type m hf _ ih =>
    obtain ⟨more, rfl, hwf, hd, hs⟩ := ih h
    obtain ⟨htype, hm⟩ := fieldType_ok_iff.mp hf
    refine ⟨type :: more, by simp, List.forall_mem_cons.mpr ⟨htype, hwf⟩, hd, ?_⟩
    rw [List.flatMap_cons, Utf8.encodeChars_append]
    exact Cursor.spans_append_of hm hs

lemma params_of_types {done types : List FieldType} (hwf : ∀ type ∈ types, type.WellFormed)
    (hs : c.Spans (Utf8.encodeChars (types.flatMap FieldType.chars)) d) :
    params whole done c = params whole (types.reverse ++ done) d := by
  induction types generalizing done c with
  | nil =>
    obtain rfl := Cursor.spans_nil.mp hs
    rfl
  | cons type types ih =>
    rw [List.forall_mem_cons] at hwf
    rw [List.flatMap_cons, Utf8.encodeChars_append] at hs
    obtain ⟨m, hm, hs⟩ := Cursor.spans_append.mp hs
    obtain ⟨b, hb, hne⟩ := head?_fieldType type
    have hclose : b ≠ closing := fun h => hne (h ▸ List.mem_cons_self)
    rw [params_of_fieldType (hm.head?_rest hb) hclose (fieldType_ok_iff.mpr ⟨hwf.1, hm⟩),
      ih hwf.2 hs, List.reverse_cons, List.append_assoc, List.singleton_append]

lemma params_complete {done more : List FieldType} (hwf : ∀ type ∈ more, type.WellFormed)
    (hd : d.rest.head? = some closing)
    (hs : c.Spans (Utf8.encodeChars (more.flatMap FieldType.chars)) d) :
    params whole done c = .ok (done.reverse ++ more) d := by
  rw [params_of_types hwf hs, params_of_closing hd, List.reverse_append, List.reverse_reverse]

lemma returned_of_fieldType {ret : Option FieldType}
    (h : (some <$> fieldType whole) c = .ok ret d) :
    (∀ type ∈ ret, type.WellFormed) ∧ c.Spans (Utf8.encodeChars (returnChars ret)) d := by
  obtain ⟨type, hf, rfl⟩ := Step.map_eq_ok_iff.mp h
  obtain ⟨hwf, hs⟩ := fieldType_ok_iff.mp hf
  exact ⟨by simpa using hwf, hs⟩

lemma returnType_ok_iff {ret : Option FieldType} :
    returnType whole c = .ok ret d ↔
      (∀ type ∈ ret, type.WellFormed) ∧ c.Spans (Utf8.encodeChars (returnChars ret)) d := by
  rw [returnType]
  simp only [Step.bind_eq_ok_iff, Read.peek?_ok_iff]
  constructor
  · rintro ⟨next, _, ⟨rfl, rfl⟩, h⟩
    cases hc : c.rest.head? with
    | none =>
      rw [hc] at h
      exact returned_of_fieldType h
    | some byte =>
      rw [hc] at h
      dsimp only at h
      split_ifs at h with hvoid
      · obtain ⟨x, _, hx, h⟩ := Step.bind_eq_ok_iff.mp h
        obtain ⟨rfl, rfl⟩ := Step.pure_eq_ok_iff.mp h
        have hx := Read.byte_ok_iff.mp hx
        obtain rfl := hx.eq_of_head? hc
        subst hvoid
        exact ⟨by simp, hx⟩
      · exact returned_of_fieldType h
  · rintro ⟨hwf, hs⟩
    refine ⟨c.rest.head?, c, ⟨rfl, rfl⟩, ?_⟩
    cases ret with
    | none =>
      have hvoid : c.Spans [voidLetter] d := hs
      rw [hvoid.head?_rest rfl]
      exact Step.bind_eq_ok_iff.mpr ⟨_, d, Read.byte_ok_iff.mpr hvoid, rfl⟩
    | some type =>
      obtain ⟨b, hb, hne⟩ := head?_fieldType type
      have hvoid : b ≠ voidLetter := fun h => hne (by simp [h])
      rw [hs.head?_rest hb]
      dsimp only
      rw [if_neg hvoid]
      exact Step.map_eq_ok_iff.mpr ⟨type, fieldType_ok_iff.mpr ⟨hwf type rfl, hs⟩, rfl⟩

lemma encodeChars_descriptor (desc : Descriptor) :
    Utf8.encodeChars desc.chars = [opening] ++
      (Utf8.encodeChars (desc.params.flatMap FieldType.chars) ++
        ([closing] ++ Utf8.encodeChars (returnChars desc.ret))) := by
  rw [Descriptor.chars, List.cons_append, Utf8.encodeChars_cons (by decide),
    Utf8.encodeChars_append, Utf8.encodeChars_cons (by decide)]
  rfl

variable (whole) in
def body : Read Descriptor := do
  let _ ← Read.u1
  let params ← params whole []
  let _ ← Read.u1
  let ret ← returnType whole
  match ← Read.peek? with
  | none => return ⟨params, ret⟩
  | some _ => do
    let pos ← Read.position
    fail whole (.trailing pos)

lemma descriptor_eq (whole : String) (c : Cursor) :
    descriptor whole c =
      if c.rest.head? = some opening then body whole c else fail whole .noOpening c := by
  rw [descriptor, Read.peek?_bind]
  cases c.rest.head? with
  | none => rfl
  | some byte =>
    by_cases h : byte = opening
    · simp only [h, ne_eq, not_true_eq_false, if_false, if_true]
      rfl
    · simp only [h, ne_eq, not_false_eq_true, if_true, Option.some.injEq, if_false]
      rfl

lemma body_ok_iff {desc : Descriptor} (hc : c.rest.head? = some opening) :
    body whole c = .ok desc d ↔
      desc.WellFormed ∧ d.rest = [] ∧ c.Spans (Utf8.encodeChars desc.chars) d := by
  rw [encodeChars_descriptor]
  constructor
  · intro h
    obtain ⟨x, m, hx, h⟩ := Step.bind_eq_ok_iff.mp h
    obtain ⟨types, m', hp, h⟩ := Step.bind_eq_ok_iff.mp h
    obtain ⟨y, m'', hy, h⟩ := Step.bind_eq_ok_iff.mp h
    obtain ⟨ret, e, hr, h⟩ := Step.bind_eq_ok_iff.mp h
    obtain ⟨next, _, hn, h⟩ := Step.bind_eq_ok_iff.mp h
    obtain ⟨rfl, rfl⟩ := Read.peek?_ok_iff.mp hn
    obtain ⟨params, rfl, hparams, hclose, hs⟩ := params_sound hp
    obtain ⟨hret, hs'⟩ := returnType_ok_iff.mp hr
    have hx := Read.byte_ok_iff.mp hx
    have hy := Read.byte_ok_iff.mp hy
    obtain rfl := hx.eq_of_head? hc
    obtain rfl := hy.eq_of_head? hclose
    cases he : e.rest.head? with
    | none =>
      rw [he] at h
      obtain ⟨rfl, rfl⟩ := Step.pure_eq_ok_iff.mp h
      refine ⟨⟨hparams, hret⟩, List.head?_eq_none_iff.mp he, ?_⟩
      exact Cursor.spans_append_of hx (Cursor.spans_append_of hs (Cursor.spans_append_of hy hs'))
    | some b =>
      rw [he] at h
      obtain ⟨pos, _, _, h⟩ := Step.bind_eq_ok_iff.mp h
      exact absurd h fail_ne_ok
  · rintro ⟨⟨hparams, hret⟩, hd, hs⟩
    obtain ⟨m, hx, hs⟩ := Cursor.spans_append.mp hs
    obtain ⟨m', hm, hs⟩ := Cursor.spans_append.mp hs
    obtain ⟨m'', hy, hs⟩ := Cursor.spans_append.mp hs
    have hp : params whole [] m = .ok desc.params m' :=
      params_complete hparams (hy.head?_rest rfl) hm
    have hr : returnType whole m'' = .ok desc.ret d := returnType_ok_iff.mpr ⟨hret, hs⟩
    have hn : Read.peek? d = .ok none d := Read.peek?_ok_iff.mpr ⟨by rw [hd]; rfl, rfl⟩
    refine Step.bind_eq_ok_iff.mpr ⟨_, m, Read.byte_ok_iff.mpr hx, ?_⟩
    refine Step.bind_eq_ok_iff.mpr ⟨_, m', hp, ?_⟩
    refine Step.bind_eq_ok_iff.mpr ⟨_, m'', Read.byte_ok_iff.mpr hy, ?_⟩
    refine Step.bind_eq_ok_iff.mpr ⟨_, d, hr, ?_⟩
    exact Step.bind_eq_ok_iff.mpr ⟨_, d, hn, rfl⟩

lemma descriptor_ok_iff {desc : Descriptor} :
    descriptor whole c = .ok desc d ↔
      desc.WellFormed ∧ d.rest = [] ∧ c.Spans (Utf8.encodeChars desc.chars) d := by
  rw [descriptor_eq]
  split_ifs with hc
  · exact body_ok_iff hc
  · refine iff_of_false fail_ne_ok fun ⟨_, _, hs⟩ => hc ?_
    rw [encodeChars_descriptor] at hs
    exact hs.head?_rest rfl

end Descriptor.Parser

namespace Descriptor

lemma parse_ok_iff (text : String) (d : Descriptor) :
    parse text = .ok d ↔ d.WellFormed ∧ d.render = text := by
  have hparse : parse text = .ok d ↔
      ∃ e, Parser.descriptor text (.ofBytes (Utf8.encode text)) = .ok d e := by
    rw [parse]
    cases Parser.descriptor text (.ofBytes (Utf8.encode text)) <;> simp
  have hrender : d.render = text ↔ Utf8.encode text = Utf8.encodeChars d.chars := by
    rw [← Utf8.encode_ofList, Utf8.encode_inj, eq_comm, render]
  rw [hparse, hrender]
  simp only [Parser.descriptor_ok_iff]
  constructor
  · rintro ⟨e, hwf, he, hrest, _⟩
    have hrest : Utf8.encode text = Utf8.encodeChars d.chars ++ e.rest := hrest
    rw [he, List.append_nil] at hrest
    exact ⟨hwf, hrest⟩
  · rintro ⟨hwf, hs⟩
    exact ⟨⟨_, []⟩, hwf, rfl, hs.trans (List.append_nil _).symm, rfl⟩

theorem parse_exact (text : String) (d : Descriptor) :
    (parse text = .ok d ↔ d.WellFormed ∧ d.render = text) ∧
      (parse d.render = .ok d ↔ d.WellFormed) := by
  refine ⟨parse_ok_iff text d, ?_⟩
  rw [parse_ok_iff, and_iff_left rfl]

-- Two descriptors may share a text; only one of them is well formed.
example : render ⟨[⟨.object "a;Lb", 0⟩], none⟩ =
    render ⟨[⟨.object "a", 0⟩, ⟨.object "b", 0⟩], none⟩ := by
  decide

end Descriptor

end ClassFile
