import ClassFile.Proofs.Validation.Groups

/-! The rules on visibility and on abstract methods do not exempt class initializers; the other
rules on flags do. -/

namespace ClassFile.Method

namespace Validation

def Violation.isOnFlags : Violation → Bool
  | conflictingVisibility _ | abstractConflict _ | interfaceMissing _ | interfaceForbidden _
  | initializerForbidden _ => true
  | initializerReturn _ | invalidName _ | invalidDescriptor _ | unexpectedCode _
  | codeCount _ => false

variable {config : Config} {m : Method} {v : Violation} {count : Nat} {flag : Flag}

lemma mem_conflictingVisibility_iff :
    .conflictingVisibility count ∈ validate config m ↔
      1 < count ∧ count = m.flags.visibilityCount := by
  rw [mem_validate_iff]
  change true = true ∧ _ ∈ visibility m.flags ++ abstractRules m.flags ↔ _
  simp only [List.mem_append, mem_visibility_iff, mem_abstractRules_iff, true_and]
  constructor
  · rintro (⟨hcount, ⟨⟩⟩ | ⟨-, flag, -, -, ⟨⟩⟩)
    exact ⟨hcount, rfl⟩
  · rintro ⟨hcount, rfl⟩
    exact .inl ⟨hcount, rfl⟩

lemma mem_abstractConflict_iff :
    .abstractConflict flag ∈ validate config m ↔
      m.flags.has .accAbstract ∧ flag ∈ abstractExcludes ∧ m.flags.has flag := by
  rw [mem_validate_iff]
  change true = true ∧ _ ∈ visibility m.flags ++ abstractRules m.flags ↔ _
  simp only [List.mem_append, mem_visibility_iff, mem_abstractRules_iff, true_and]
  constructor
  · rintro (⟨-, ⟨⟩⟩ | ⟨habstract, flag, hmem, hhas, ⟨⟩⟩)
    exact ⟨habstract, hmem, hhas⟩
  · rintro ⟨habstract, hmem, hhas⟩
    exact .inr ⟨habstract, flag, hmem, hhas, rfl⟩

lemma findings_classInitializer (h : m.name = classInitializer) :
    Group.findings m .interfaceMethod = [] ∧ Group.findings m .specialMethods = [] := by
  have hclass : m.isClassInitializer = true := decide_eq_true h
  have hconstructor : m.isConstructor = false := by
    rw [isConstructor, h]
    decide
  exact ⟨if_pos hclass, if_neg (by rw [hconstructor]; exact Bool.false_ne_true)⟩

lemma group_of_mem_classInitializer (h : m.name = classInitializer) (hv : v ∈ validate config m) :
    v.group ≠ .interfaceMethod ∧ v.group ≠ .specialMethods := by
  obtain ⟨hinterface, hspecial⟩ := findings_classInitializer h
  have hfound := (mem_validate_iff.mp hv).2
  constructor <;> intro hgroup <;> rw [hgroup] at hfound
  · exact List.not_mem_nil (hinterface ▸ hfound)
  · exact List.not_mem_nil (hspecial ▸ hfound)

end Validation

open Validation

theorem classInitializer_findings_on_flags (config : Config) (m : Method)
    (h : m.name = "<clinit>") :
    (∀ flag, .interfaceMissing flag ∉ validate config m ∧
      .interfaceForbidden flag ∉ validate config m ∧
      .initializerForbidden flag ∉ validate config m) ∧
    (∀ count, .conflictingVisibility count ∈ validate config m ↔
      1 < count ∧ count = m.flags.visibilityCount) ∧
    (∀ flag, .abstractConflict flag ∈ validate config m ↔ m.flags.has .accAbstract ∧
      flag ∈ [.accFinal, .accNative, .accPrivate, .accStatic, .accStrict, .accSynchronized] ∧
        m.flags.has flag) ∧
    ((∀ v ∈ validate config m, ¬ v.isOnFlags) ↔ m.flags.visibilityCount ≤ 1 ∧
      (m.flags.has .accAbstract → ∀ flag ∈ [Flag.accFinal, .accNative, .accPrivate, .accStatic,
        .accStrict, .accSynchronized], ¬ m.flags.has flag)) := by
  refine ⟨fun flag => ⟨?_, ?_, ?_⟩, fun count => mem_conflictingVisibility_iff,
    fun flag => mem_abstractConflict_iff, ?_⟩
  · exact fun hv => (group_of_mem_classInitializer h hv).1 rfl
  · exact fun hv => (group_of_mem_classInitializer h hv).1 rfl
  · exact fun hv => (group_of_mem_classInitializer h hv).2 rfl
  constructor
  · intro hnone
    constructor
    · by_contra hcount
      exact hnone _ (mem_conflictingVisibility_iff.mpr ⟨Nat.not_le.mp hcount, rfl⟩) rfl
    · intro habstract flag hmem hhas
      exact hnone _ (mem_abstractConflict_iff.mpr ⟨habstract, hmem, hhas⟩) rfl
  · rintro ⟨hcount, hexcludes⟩ v hv hflags
    obtain ⟨hinterface, hspecial⟩ := group_of_mem_classInitializer h hv
    cases v with
    | conflictingVisibility count =>
      obtain ⟨hlt, rfl⟩ := mem_conflictingVisibility_iff.mp hv
      exact absurd hcount (Nat.not_le.mpr hlt)
    | abstractConflict flag =>
      obtain ⟨habstract, hmem, hhas⟩ := mem_abstractConflict_iff.mp hv
      exact hexcludes habstract flag hmem hhas
    | interfaceMissing | interfaceForbidden => exact hinterface rfl
    | initializerForbidden => exact hspecial rfl
    | initializerReturn | invalidName | invalidDescriptor | unexpectedCode | codeCount =>
      cases hflags

def overloadedInitializer : Method :=
  ⟨"<clinit>", "()V", .ofList [.accPublic, .accPrivate, .accStatic, .accAbstract], []⟩

theorem classInitializer_findings_on_flags_overloaded :
    overloadedInitializer.name = "<clinit>" ∧
      .conflictingVisibility 2 ∈ validate .standard overloadedInitializer ∧
      .abstractConflict .accStatic ∈ validate .disabled overloadedInitializer ∧
      .interfaceForbidden .accStatic ∉ validate .everything overloadedInitializer := by
  have hname : overloadedInitializer.name = "<clinit>" := by decide
  obtain ⟨-, hvisibility, -⟩ := classInitializer_findings_on_flags .standard _ hname
  obtain ⟨-, -, habstract, -⟩ := classInitializer_findings_on_flags .disabled _ hname
  obtain ⟨hexempt, -⟩ := classInitializer_findings_on_flags .everything _ hname
  refine ⟨hname, (hvisibility 2).mpr (by decide), (habstract .accStatic).mpr (by decide), ?_⟩
  exact (hexempt .accStatic).2.1

theorem classInitializer_not_exempt :
    ¬ ∀ (config : Config) (m : Method), m.name = "<clinit>" →
      ∀ v ∈ validate config m, ¬ v.isOnFlags := by
  intro hexempt
  have hreported : .conflictingVisibility 2 ∈ validate .standard overloadedInitializer := by
    decide
  exact hexempt .standard overloadedInitializer (by decide) _ hreported rfl

end ClassFile.Method
