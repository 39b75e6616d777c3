import ClassFile.Proofs.Descriptor.Words
import ClassFile.Proofs.Validation.Groups

namespace ClassFile

namespace Attribute.Kind

variable {name : String} {kind : Kind}

lemma ofName_name (kind : Kind) : ofName kind.name = kind := by
  cases kind <;> decide

lemma ofName_eq_iff (h : kind ≠ unknown) : ofName name = kind ↔ name = kind.name := by
  constructor
  · rintro rfl
    rw [ofName] at h ⊢
    cases hfind : ofName? name with
    | none => exact absurd (by rw [hfind]; rfl) h
    | some found => simpa [eq_comm] using List.find?_some hfind
  · rintro rfl
    exact ofName_name kind

end Attribute.Kind

namespace Method

namespace Validation

/-- The rules that `config` asks for, for methods other than the class initializer. -/
structure Legal (config : Config) (m : Method) : Prop where
  visibility : ∀ f ∈ [Flag.accPublic, .accPrivate, .accProtected],
    ∀ g ∈ [Flag.accPublic, .accPrivate, .accProtected], m.flags.has f → m.flags.has g → f = g
  abstracts : m.flags.has .accAbstract →
    ∀ f ∈ [Flag.accFinal, .accNative, .accPrivate, .accStatic, .accStrict, .accSynchronized],
      ¬ m.flags.has f
  interface : config.interfaceMethod → m.flags.has .accPublic ∧ m.flags.has .accAbstract ∧
    ∀ f, m.flags.has f →
      f ∈ [Flag.accPublic, .accAbstract, .accVarargs, .accBridge, .accSynthetic]
  initializer : config.specialMethods → m.name = "<init>" →
    (∀ f, m.flags.has f → f ∈ [Flag.accPublic, .accPrivate, .accProtected, .accStrict, .accVarargs,
      .accSynthetic]) ∧ ")V".toList <:+ m.descriptor.toList
  name : config.name → m.name = "<init>" ∨
    m.name ≠ "" ∧ ∀ c ∈ m.name.toList, c ∉ ['.', ';', '[', '/', '<', '>']
  descriptor : config.descriptor → Descriptor.IsWord m.descriptor.toList
  code : config.code → m.attributes.countP (fun a => a.name = "Code") =
    if m.flags.has .accAbstract ∨ m.flags.has .accNative then 0 else 1

variable {config : Config} {m : Method} {flags : Flags}

lemma validate_eq_nil_iff :
    validate config m = [] ↔ ∀ group, config.enables group → group.findings m = [] := by
  simp [validate_eq, List.flatMap_eq_nil_iff, Group.mem_all]

lemma visibility_eq_nil_iff :
    Validation.visibility flags = [] ↔ ∀ f ∈ [Flag.accPublic, .accPrivate, .accProtected],
      ∀ g ∈ [Flag.accPublic, .accPrivate, .accProtected], flags.has f → flags.has g → f = g := by
  cases hpublic : flags.isPublic <;> cases hprivate : flags.isPrivate <;>
    cases hprotected : flags.isProtected <;>
    simp [Validation.visibility, Flags.visibilityCount, Flags.has, hpublic, hprivate, hprotected]

lemma abstractRules_eq_nil_iff :
    abstractRules flags = [] ↔ (flags.isAbstract → ∀ f ∈ abstractExcludes, ¬ flags.has f) := by
  simp [abstractRules]

lemma outside_eq_nil_iff {allowed : List Flag} :
    outside allowed flags = [] ↔ ∀ f, flags.has f → f ∈ allowed := by
  simp only [List.eq_nil_iff_forall_not_mem, mem_outside_iff, not_and, not_imp_not]

lemma interfaceRules_eq_nil_iff :
    interfaceRules flags = [] ↔
      (∀ f ∈ interfaceRequires, flags.has f) ∧ ∀ f, flags.has f → f ∈ interfaceAllows := by
  simp [interfaceRules, outside_eq_nil_iff]

lemma initializerRules_eq_nil_iff :
    initializerRules m = [] ↔ (∀ f, m.flags.has f → f ∈ initializerAllows) ∧
      [')', 'V'] <:+ m.descriptor.toList := by
  simp [initializerRules, outside_eq_nil_iff]

lemma nameRules_eq_nil_iff {name : String} (h : name ≠ classInitializer) :
    nameRules name = [] ↔
      name = instanceInitializer ∨ name ≠ "" ∧ ∀ c ∈ name.toList, c ∉ reserved := by
  simp [nameRules, isValidName, h, or_iff_not_imp_left]

lemma descriptorRules_eq_nil_iff {descriptor : String} :
    descriptorRules descriptor = [] ↔ Descriptor.IsWord descriptor.toList := by
  rw [Descriptor.isWord_iff_parse, descriptorRules]
  cases Descriptor.parse descriptor <;> simp

lemma codeRules_eq_nil_iff :
    codeRules m = [] ↔ m.attributes.countP (fun a => a.name = "Code") =
      if m.flags.isAbstract ∨ m.flags.isNative then 0 else 1 := by
  have hkind : ∀ a : Attribute, a.kind = .code ↔ a.name = "Code" :=
    fun a => Attribute.Kind.ofName_eq_iff (by decide)
  simp only [codeRules, bodiless?, hkind]
  cases m.flags.isAbstract <;> cases m.flags.isNative <;> simp

end Validation

open Validation

theorem nothing_found_iff_legal (config : Config) (m : Method) (h : m.name ≠ "<clinit>") :
    validate config m = [] ↔ Legal config m := by
  have hclass : m.isClassInitializer = false := decide_eq_false h
  have hconstructor : m.isConstructor = true ↔ m.name = "<init>" := decide_eq_true_iff
  rw [validate_eq_nil_iff]
  constructor
  · intro hnil
    have halways := List.append_eq_nil_iff.mp (hnil .always rfl)
    refine ⟨visibility_eq_nil_iff.mp halways.1, abstractRules_eq_nil_iff.mp halways.2, ?_, ?_, ?_,
      ?_, ?_⟩
    · intro hon
      have hrules := hnil .interfaceMethod hon
      rw [Group.findings, hclass] at hrules
      obtain ⟨hrequires, hallows⟩ := interfaceRules_eq_nil_iff.mp hrules
      exact ⟨hrequires _ (by decide), hrequires _ (by decide), hallows⟩
    · intro hon hname
      have hrules := hnil .specialMethods hon
      rw [Group.findings, if_pos (hconstructor.mpr hname)] at hrules
      exact initializerRules_eq_nil_iff.mp hrules
    · exact fun hon => (nameRules_eq_nil_iff h).mp (hnil .name hon)
    · exact fun hon => descriptorRules_eq_nil_iff.mp (hnil .descriptor hon)
    · exact fun hon => codeRules_eq_nil_iff.mp (hnil .code hon)
  · intro hlegal group hon
    cases group with
    | always =>
      exact List.append_eq_nil_iff.mpr ⟨visibility_eq_nil_iff.mpr hlegal.visibility,
        abstractRules_eq_nil_iff.mpr hlegal.abstracts⟩
    | interfaceMethod =>
      obtain ⟨hpublic, habstract, hallows⟩ := hlegal.interface hon
      rw [Group.findings, hclass]
      refine interfaceRules_eq_nil_iff.mpr ⟨?_, hallows⟩
      simpa [interfaceRequires] using ⟨hpublic, habstract⟩
    | specialMethods =>
      rw [Group.findings]
      split_ifs with hinit
      · exact initializerRules_eq_nil_iff.mpr (hlegal.initializer hon (hconstructor.mp hinit))
      · rfl
    | name => exact (nameRules_eq_nil_iff h).mpr (hlegal.name hon)
    | descriptor => exact descriptorRules_eq_nil_iff.mpr (hlegal.descriptor hon)
    | code => exact codeRules_eq_nil_iff.mpr (hlegal.code hon)

def bridged (carried : String) : Method :=
  ⟨"apply", "(Lé/A;[[J)[LB;", .ofList [.accPublic, .accAbstract, .accBridge], [⟨carried, []⟩]⟩

theorem nothing_found_iff_legal_bridged :
    (bridged "Code").name ≠ "<clinit>" ∧ Legal .everything (bridged "Signature") ∧
      ¬ Legal .everything (bridged "Code") := by
  refine ⟨by decide, ?_, ?_⟩
  · exact (nothing_found_iff_legal .everything (bridged "Signature") (by decide)).mp
      (by decide +kernel)
  · exact (nothing_found_iff_legal .everything (bridged "Code") (by decide)).not.mp
      (by decide +kernel)

end Method

end ClassFile
