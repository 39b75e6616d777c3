import ClassFile.Proofs.Descriptor.Grammar
import ClassFile.Proofs.Validation.Groups

/-! The return type is judged by how the text of the descriptor ends. No type ends like the mark of
a method that returns nothing. -/

namespace ClassFile

lemma BaseType.getLast?_chars (type : BaseType) :
    ∃ c, type.chars.getLast? = some c ∧ c ≠ 'V' := by
  cases type with
  | primitive p => exact ⟨p.letter, rfl, by cases p <;> decide⟩
  | object name => exact ⟨';', List.getLast?_concat, by decide⟩

lemma FieldType.getLast?_chars (type : FieldType) :
    ∃ c, type.chars.getLast? = some c ∧ c ≠ 'V' := by
  obtain ⟨c, hc, hne⟩ := type.base.getLast?_chars
  refine ⟨c, ?_, hne⟩
  rw [FieldType.chars, List.getLast?_append, hc]
  rfl

namespace Descriptor

lemma ends_void_iff (d : Descriptor) : [')', 'V'] <:+ d.chars ↔ d.ret = none := by
  rw [Descriptor.chars]
  cases d.ret with
  | none =>
    have hends : [')', 'V'] <:+ '(' :: d.params.flatMap FieldType.chars ++ [')', 'V'] :=
      List.suffix_append ..
    exact iff_of_true hends rfl
  | some type =>
    refine iff_of_false ?_ (Option.some_ne_none type)
    -- The last character is that of the return type.
    rintro ⟨front, hfront⟩
    obtain ⟨c, hc, hne⟩ := type.getLast?_chars
    have hchars : '(' :: d.params.flatMap FieldType.chars ++ ')' :: returnChars (some type) =
        '(' :: d.params.flatMap FieldType.chars ++ [')'] ++ type.chars := by
      simp [returnChars]
    have hlast := congrArg List.getLast? (hfront.trans hchars)
    rw [List.getLast?_append, List.getLast?_append, hc] at hlast
    exact hne (Option.some.inj hlast).symm

end Descriptor

namespace Method

open Validation

variable {config : Config} {m : Method} {reported : String}

lemma mem_initializerReturn_iff (hname : m.name = instanceInitializer) :
    .initializerReturn reported ∈ validate config m ↔
      config.specialMethods ∧ ¬ [')', 'V'] <:+ m.descriptor.toList ∧ reported = m.descriptor := by
  have hconstructor : m.isConstructor = true := decide_eq_true hname
  rw [mem_validate_iff]
  change config.specialMethods ∧ _ ∈ Group.findings m .specialMethods ↔ _
  rw [Group.findings, if_pos hconstructor, mem_initializerRules_iff]
  simp

theorem initializerReturn_reported (text : String) (d : Descriptor)
    (h : Descriptor.parse text = .ok d) :
    (")V".toList <:+ text.toList ↔ d.ret = none) ∧
      ∀ (config : Config) (m : Method), config.specialMethods = true → m.name = "<init>" →
        m.descriptor = text → ∀ reported,
          .initializerReturn reported ∈ validate config m ↔
            reported = text ∧ ∃ type, d.ret = some type := by
  obtain ⟨-, rfl⟩ := (Descriptor.parse_ok_iff text d).mp h
  have hends : ")V".toList <:+ d.render.toList ↔ d.ret = none := by
    simp only [Descriptor.render, String.toList_ofList]
    exact d.ends_void_iff
  refine ⟨hends, fun config m hspecial hname hdescriptor reported => ?_⟩
  calc .initializerReturn reported ∈ validate config m
    _ ↔ ¬ ")V".toList <:+ d.render.toList ∧ reported = d.render := by
      rw [mem_initializerReturn_iff hname, hdescriptor]
      exact and_iff_right hspecial
    _ ↔ reported = d.render ∧ ∃ type, d.ret = some type := by
      rw [hends, ← ne_eq, Option.ne_none_iff_exists', and_comm]

theorem initializerReturn_reported_parenthesis :
    Descriptor.parse "(L)V;)L(a)V;" =
        .ok ⟨[⟨.object ")V", 0⟩], some ⟨.object "(a)V", 0⟩⟩ ∧
      .initializerReturn "(L)V;)L(a)V;" ∈
        validate .standard ⟨"<init>", "(L)V;)L(a)V;", .onlyPublic, []⟩ := by
  have h : Descriptor.parse "(L)V;)L(a)V;" =
      .ok ⟨[⟨.object ")V", 0⟩], some ⟨.object "(a)V", 0⟩⟩ := by
    decide +kernel
  have hreported := (initializerReturn_reported _ _ h).2 .standard
    ⟨"<init>", "(L)V;)L(a)V;", .onlyPublic, []⟩ rfl rfl rfl "(L)V;)L(a)V;"
  exact ⟨h, hreported.mpr ⟨rfl, _, rfl⟩⟩

end Method

end ClassFile
