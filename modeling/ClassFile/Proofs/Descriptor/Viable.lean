import ClassFile.Proofs.Descriptor.Faults

namespace ClassFile

open Text

namespace Descriptor

variable {bytes front x after more : List UInt8} {b stop : UInt8} {n k : Nat} {d : Descriptor}

def Accepted (bytes : List UInt8) : Prop :=
  ∃ text d, parse text = .ok d ∧ Utf8.encode text = bytes

def Viable (bytes : List UInt8) : Prop := ∃ whole, Accepted whole ∧ bytes <+: whole

structure Breaks (bytes : List UInt8) (p : Nat) : Prop where
  lt : p < bytes.length
  viable : Viable (bytes.take p)
  refused : ¬ Viable (bytes.take (p + 1))
  longest : ∀ q ≤ bytes.length, Viable (bytes.take q) ↔ q ≤ p

lemma accepted_iff :
    Accepted bytes ↔ ∃ d : Descriptor, d.WellFormed ∧ Utf8.encodeChars d.chars = bytes := by
  simp only [Accepted, parse_ok_iff]
  constructor
  · rintro ⟨_, d, ⟨hwf, rfl⟩, rfl⟩
    exact ⟨d, hwf, (Utf8.encode_ofList _).symm⟩
  · rintro ⟨d, hwf, rfl⟩
    exact ⟨d.render, d, ⟨hwf, rfl⟩, Utf8.encode_ofList _⟩

lemma Accepted.viable (h : Accepted bytes) : Viable bytes := ⟨bytes, h, List.prefix_rfl⟩

lemma viable_iff :
    Viable bytes ↔ ∃ d : Descriptor, d.WellFormed ∧ bytes <+: Utf8.encodeChars d.chars := by
  simp only [Viable, accepted_iff]
  constructor
  · rintro ⟨_, ⟨d, hwf, rfl⟩, hp⟩
    exact ⟨d, hwf, hp⟩
  · rintro ⟨d, hwf, hp⟩
    exact ⟨_, ⟨d, hwf, rfl⟩, hp⟩

lemma Viable.of_prefix (h : Viable bytes) (hp : front <+: bytes) : Viable front := by
  obtain ⟨whole, ha, hw⟩ := h
  exact ⟨whole, ha, hp.trans hw⟩

lemma Breaks.of_viable (h : Viable front) (hb : ¬ Viable (front ++ [b])) :
    Breaks (front ++ b :: after) front.length := by
  have hfront : (front ++ b :: after).take front.length = front := List.take_left
  have hnext : (front ++ b :: after).take (front.length + 1) = front ++ [b] := by
    rw [List.take_append, List.take_of_length_le (Nat.le_succ _)]
    simp
  refine ⟨by simp, by rwa [hfront], by rwa [hnext], fun q hq => ⟨fun hv => ?_, fun hle => ?_⟩⟩
  · by_contra hlt
    have hp := List.take_prefix_take_left (l := front ++ b :: after) (Nat.not_le.mp hlt)
    rw [hnext] at hp
    exact hb (hv.of_prefix hp)
  · rw [List.take_append_of_le_length hle]
    exact h.of_prefix (List.take_prefix q front)

lemma le_of_replicate_append {α : Type} {a b : α} {u v : List α} (hb : b ≠ a)
    (h : List.replicate n a ++ u = List.replicate k a ++ b :: v) : n ≤ k := by
  induction n generalizing k with
  | zero => exact Nat.zero_le k
  | succ n ih =>
    cases k with
    | zero => exact absurd (List.cons.inj h).1.symm hb
    | succ k => exact Nat.succ_le_succ (ih (List.cons.inj h).2)

namespace Parser

lemma StartsBase.of_head? {type : BaseType} (h : (Utf8.encodeChars type.chars).head? = some b) :
    StartsBase b := by
  cases type with
  | primitive p =>
    rw [encodeChars_primitive] at h
    obtain rfl := Option.some.inj h
    exact .inl (Option.isSome_iff_exists.mpr ⟨p, Primitive.ofLetter?_eq_some_iff.mpr rfl⟩)
  | object name =>
    rw [encodeChars_object] at h
    exact .inr (Option.some.inj h).symm

lemma exists_front (type : FieldType) (more : List UInt8) :
    ∃ b after, Utf8.encodeChars type.chars ++ more =
      List.replicate type.dimensions bracket ++ b :: after ∧ b ≠ bracket ∧ StartsBase b := by
  obtain ⟨b, hb, hne⟩ := head?_baseType type.base
  obtain ⟨rest, hrest⟩ := List.head?_eq_some_iff.mp hb
  refine ⟨b, rest ++ more, ?_, fun h => hne (by simp [h]), .of_head? hb⟩
  rw [FieldType.chars, Utf8.encodeChars_append, encodeChars_brackets, hrest, List.append_assoc]
  rfl

lemma dimensions_of_brackets {type : FieldType}
    (h : List.replicate n bracket ++ x = Utf8.encodeChars type.chars ++ more) :
    n ≤ type.dimensions := by
  obtain ⟨b, after, hfront, hne, -⟩ := exists_front type more
  exact le_of_replicate_append hne (h.trans hfront)

lemma startsBase_of_letter {type : FieldType} (hb : b ≠ bracket)
    (h : List.replicate n bracket ++ b :: x = Utf8.encodeChars type.chars ++ more) :
    StartsBase b := by
  obtain ⟨b', after, hfront, hne, hstart⟩ := exists_front type more
  rw [hfront] at h
  have hn : n = type.dimensions :=
    Nat.le_antisymm (le_of_replicate_append hne h) (le_of_replicate_append hb h.symm)
  rw [hn] at h
  obtain ⟨rfl, -⟩ := List.cons.inj (List.append_cancel_left h)
  exact hstart

lemma getLast?_fieldType (type : FieldType) :
    ∃ b, (Utf8.encodeChars type.chars).getLast? = some b ∧ b ≠ bracket := by
  rw [FieldType.chars, Utf8.encodeChars_append]
  cases type.base with
  | primitive p =>
    rw [encodeChars_primitive]
    exact ⟨p.letter.toUInt8, by simp, by cases p <;> decide⟩
  | object name =>
    rw [encodeChars_object]
    refine ⟨semicolon, ?_, by decide⟩
    rw [← List.append_assoc, ← List.append_assoc]
    exact List.getLast?_concat

lemma getLast?_types (types : List FieldType) :
    ([opening] ++ Utf8.encodeChars (types.flatMap FieldType.chars)).getLast? ≠ some bracket := by
  rcases List.eq_nil_or_concat types with rfl | ⟨types, type, rfl⟩
  · decide
  · obtain ⟨b, hb, hne⟩ := getLast?_fieldType type
    rw [List.concat_eq_append, List.flatMap_append, Utf8.encodeChars_append, List.flatMap_singleton,
      ← List.append_assoc, List.getLast?_append, hb]
    exact fun h => hne (Option.some.inj h)

lemma Awaits.getLast? {before : List UInt8} (h : Awaits before stop) :
    before.getLast? ≠ some bracket := by
  cases h with
  | param => exact getLast?_types _
  | ret =>
    rw [← List.append_assoc, List.getLast?_concat]
    decide

section Completion

variable {before : List UInt8} {type : FieldType} {types : List FieldType}

lemma Awaits.viable (h : Awaits before stop) (hwf : type.WellFormed) :
    Viable (before ++ Utf8.encodeChars type.chars) := by
  rw [viable_iff]
  cases h with
  | @param types htypes =>
    refine ⟨⟨types ++ [type], none⟩, ⟨?_, nofun⟩, [closing] ++ Utf8.encodeChars ['V'], ?_⟩
    · simpa [or_imp, forall_and] using ⟨htypes, hwf⟩
    · rw [encodeChars_descriptor]
      simp [returnChars]
  | @ret types htypes =>
    refine ⟨⟨types, some type⟩, ⟨htypes, by simpa using hwf⟩, [], ?_⟩
    rw [encodeChars_descriptor]
    simp [returnChars]

lemma Awaits.viable_brackets (h : Awaits before stop) (hn : n ≤ FieldType.maxDimensions) :
    Viable (before ++ List.replicate n bracket) := by
  have hv := h.viable (⟨hn, trivial⟩ : (⟨.primitive .int, n⟩ : FieldType).WellFormed)
  rw [FieldType.chars, Utf8.encodeChars_append, encodeChars_brackets, ← List.append_assoc] at hv
  exact hv.of_prefix (List.prefix_append ..)

lemma behind_types (hwf : ∀ type ∈ types, type.WellFormed) (hd : d.WellFormed)
    (h : Utf8.encodeChars d.chars = [opening] ++
      (Utf8.encodeChars (types.flatMap FieldType.chars) ++ after)) :
    after = [closing] ++ Utf8.encodeChars (returnChars d.ret) ∨
      ∃ (type : FieldType) (more : List UInt8), type.WellFormed ∧
        after = Utf8.encodeChars type.chars ++ more := by
  rw [encodeChars_descriptor] at h
  have h := List.append_cancel_left h
  -- The parser reads the parameters of `d` from bytes that begin with `types`.
  let c : Cursor := .ofBytes (Utf8.encodeChars (types.flatMap FieldType.chars) ++ after)
  have hs : c.Spans (Utf8.encodeChars (types.flatMap FieldType.chars)) ⟨_, after⟩ := ⟨rfl, rfl⟩
  have hs' : c.Spans (Utf8.encodeChars (d.params.flatMap FieldType.chars)) ⟨_, _⟩ := ⟨h.symm, rfl⟩
  have hp : params "" [] c = .ok _ _ := params_complete hd.1 rfl hs'
  rw [params_of_types hwf hs] at hp
  obtain ⟨more, -, hmore, -, hbehind⟩ := params_sound hp
  cases more with
  | nil => exact .inl (congrArg Cursor.rest (Cursor.spans_nil.mp hbehind))
  | cons type more =>
    rw [List.flatMap_cons, Utf8.encodeChars_append] at hbehind
    exact .inr ⟨type, _, hmore type List.mem_cons_self, hbehind.1.trans (List.append_assoc ..)⟩

lemma behind_closing (hwf : ∀ type ∈ types, type.WellFormed) (hd : d.WellFormed)
    (h : Utf8.encodeChars d.chars = [opening] ++
      (Utf8.encodeChars (types.flatMap FieldType.chars) ++ [closing]) ++ after) :
    after = Utf8.encodeChars (returnChars d.ret) := by
  rw [List.append_assoc, List.append_assoc] at h
  rcases behind_types hwf hd h with h | ⟨type, more, -, h⟩
  · exact List.append_cancel_left h
  · obtain ⟨b, hb, hne⟩ := head?_fieldType type
    obtain ⟨rest, hrest⟩ := List.head?_eq_some_iff.mp hb
    rw [hrest] at h
    obtain ⟨rfl, -⟩ := List.cons.inj h
    exact absurd List.mem_cons_self hne

lemma Awaits.behind (h : Awaits before stop) (hd : d.WellFormed)
    (heq : Utf8.encodeChars d.chars = before ++ after) : after.head? = some stop ∨
      ∃ (type : FieldType) (more : List UInt8), type.WellFormed ∧
        after = Utf8.encodeChars type.chars ++ more := by
  cases h with
  | param hwf =>
    rw [List.append_assoc] at heq
    rcases behind_types hwf hd heq with rfl | h
    · exact .inl rfl
    · exact .inr h
  | ret hwf =>
    obtain rfl := behind_closing hwf hd heq
    cases hret : d.ret with
    | none => exact .inl rfl
    | some type => exact .inr ⟨type, [], hd.2 type hret, (List.append_nil _).symm⟩

lemma Awaits.not_viable (h : Awaits before stop) (hx : x ≠ []) (hstop : x.head? ≠ some stop)
    (hno : ∀ (type : FieldType) (u v : List UInt8), type.WellFormed →
      x ++ u ≠ Utf8.encodeChars type.chars ++ v) : ¬ Viable (before ++ x) := by
  rw [viable_iff]
  rintro ⟨d, hd, rest, heq⟩
  rw [List.append_assoc] at heq
  rcases h.behind hd heq.symm with hhead | ⟨type, v, hwf, hv⟩
  · obtain ⟨b, x, rfl⟩ := List.exists_cons_of_ne_nil hx
    exact hstop hhead
  · exact hno type rest v hwf hv

lemma not_viable_trailing (hd : d.WellFormed) : ¬ Viable (Utf8.encodeChars d.chars ++ [b]) := by
  rw [viable_iff]
  rintro ⟨d', hd', more, heq⟩
  rw [encodeChars_descriptor d] at heq
  have hret : Utf8.encodeChars (returnChars d.ret) ++ b :: more =
      Utf8.encodeChars (returnChars d'.ret) := by
    apply behind_closing hd.1 hd'
    rw [← heq]
    simp
  -- Both return types are read from the same place, so they end at the same place.
  let c : Cursor := .ofBytes (Utf8.encodeChars (returnChars d.ret) ++ b :: more)
  have hs : returnType "" c = .ok d.ret ⟨_, b :: more⟩ := returnType_ok_iff.mpr ⟨hd.2, rfl, rfl⟩
  have hs' : returnType "" c = .ok d'.ret ⟨_, []⟩ :=
    returnType_ok_iff.mpr ⟨hd'.2, hret.trans (List.append_nil _).symm, rfl⟩
  obtain ⟨-, hend⟩ := EStateM.Result.ok.inj (hs.symm.trans hs')
  exact absurd (congrArg Cursor.rest hend) (List.cons_ne_nil b more)

lemma Awaits.breaks_tooMany (h : Awaits before stop) (hn : FieldType.maxDimensions < n) :
    Breaks (before ++ (List.replicate n bracket ++ after))
      (before.length + FieldType.maxDimensions) := by
  obtain ⟨k, rfl⟩ := Nat.exists_eq_add_of_lt hn
  have hlen : before.length + FieldType.maxDimensions =
      (before ++ List.replicate FieldType.maxDimensions bracket).length := by simp
  rw [Nat.add_assoc, ← List.replicate_append_replicate, List.replicate_succ, List.append_assoc,
    ← List.append_assoc before, hlen]
  refine .of_viable (h.viable_brackets (Nat.le_refl _)) ?_
  rw [List.append_assoc, ← List.replicate_succ']
  refine h.not_viable (by simp) ?_ fun type u v hwf heq => ?_
  · have hstop : stop ≠ bracket := by cases h <;> decide
    rw [List.replicate_succ]
    exact fun hb => hstop (Option.some.inj hb).symm
  · exact absurd (dimensions_of_brackets heq) (Nat.not_le.mpr (Nat.lt_succ_of_le hwf.1))

lemma Awaits.breaks_letter (h : Awaits before stop) (hn : n ≤ FieldType.maxDimensions)
    (hstop : (List.replicate n bracket ++ b :: after).head? ≠ some stop) (hb : b ≠ bracket)
    (hstart : ¬ StartsBase b) :
    Breaks (before ++ (List.replicate n bracket ++ b :: after)) (before.length + n) := by
  have hlen : before.length + n = (before ++ List.replicate n bracket).length := by simp
  rw [← List.append_assoc, hlen]
  refine .of_viable (h.viable_brackets hn) ?_
  rw [List.append_assoc]
  refine h.not_viable (by simp) ?_ fun type u v hwf heq => ?_
  · rwa [List.head?_append] at hstop ⊢
  · rw [List.append_assoc] at heq
    exact hstart (startsBase_of_letter hb heq)

end Completion

end Parser

def Diagnosed (bytes : List UInt8) : Fault → Prop
  | .noClosing | .endsInType => Viable bytes
  | .badLetter b p => bytes[p]? = some b ∧ Breaks bytes p
  | .trailing p => Accepted (bytes.take p) ∧ Breaks bytes p
  | .tooManyDimensions n => 255 < n ∧ ∃ before after,
      bytes = before ++ (List.replicate n '['.toUInt8 ++ after) ∧
        before.getLast? ≠ some '['.toUInt8 ∧ after.head? ≠ some '['.toUInt8 ∧
          Breaks bytes (before.length + 255)
  | .noOpening => bytes.head? ≠ some '('.toUInt8
  | .unterminatedName _ | .brokenCharacter _ | .badName _ => True

namespace Parser

variable {fault : Fault} {before : List UInt8}

lemma diagnosed_of_typeFault (h : Awaits before stop) (hstop : after.head? ≠ some stop)
    (hf : TypeFault before.length after fault) : Diagnosed (before ++ after) fault := by
  cases hf with
  | tooMany hn hafter => exact ⟨hn, before, _, rfl, h.getLast?, hafter, h.breaks_tooMany hn⟩
  | @base n after _ hn hafter hbase =>
    cases hbase with
    | ends =>
      rw [List.append_nil]
      exact h.viable_brackets hn
    | letter hb =>
      refine ⟨?_, h.breaks_letter hn hstop (fun hb => hafter (congrArg some hb)) hb⟩
      rw [← List.append_assoc]
      simp
    | name hname => cases hname <;> trivial

lemma diagnosed_of_stuck (h : Stuck bytes fault) : Diagnosed bytes fault := by
  cases h with
  | noOpening h => exact h
  | noClosing h =>
    have hv := h.viable_brackets (Nat.zero_le _)
    rwa [List.replicate_zero, List.append_nil] at hv
  | type h hstop hf => exact diagnosed_of_typeFault h hstop hf
  | @trailing d b after hwf =>
    have haccepted : Accepted (Utf8.encodeChars d.chars) := accepted_iff.mpr ⟨d, hwf, rfl⟩
    refine ⟨?_, .of_viable haccepted.viable (not_viable_trailing hwf)⟩
    rwa [List.take_left]

end Parser

theorem rejected_located (text : String) (e : Error) (h : parse text = .error e) :
    ∃ fault, e = .malformed (.descriptor text fault) ∧ Diagnosed (Utf8.encode text) fault := by
  rw [parse] at h
  split at h
  · cases h
  · next hd =>
    cases h
    exact (Parser.descriptor_error hd).imp fun _ hstuck => Parser.diagnosed_of_stuck hstuck

theorem rejected_located_letter :
    parse "(Lé;[[I)[Q" = .error (.malformed (.descriptor "(Lé;[[I)[Q" (.badLetter 0x51 10))) ∧
      Breaks (Utf8.encode "(Lé;[[I)[Q") 10 := by
  have h : parse "(Lé;[[I)[Q" =
      .error (.malformed (.descriptor "(Lé;[[I)[Q" (.badLetter 0x51 10))) := by
    decide +kernel
  obtain ⟨fault, he, hd⟩ := rejected_located _ _ h
  cases he
  exact ⟨h, hd.2⟩

end Descriptor

end ClassFile
