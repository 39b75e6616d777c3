import ClassFile.Method.Validation
import Mathlib.Data.List.Nodup

/-! A group of rules reports the same whatever else is switched on. -/

namespace ClassFile

lemma Flags.nodup_toList (flags : Flags) : flags.toList.Nodup :=
  List.Nodup.filter _ (by decide)

namespace Method

namespace Validation

inductive Group where
  | always | interfaceMethod | specialMethods | name | descriptor | code
deriving DecidableEq

namespace Group

def all : List Group := [always, interfaceMethod, specialMethods, name, descriptor, code]

lemma mem_all (group : Group) : group ∈ all := by
  cases group <;> decide

def findings (m : Method) : Group → List Violation
  | always => visibility m.flags ++ abstractRules m.flags
  | interfaceMethod => if m.isClassInitializer then [] else interfaceRules m.flags
  | specialMethods => if m.isConstructor then initializerRules m else []
  | name => nameRules m.name
  | descriptor => descriptorRules m.descriptor
  | code => codeRules m

end Group

def Config.enables (config : Config) : Group → Bool
  | .always => true
  | .interfaceMethod => config.interfaceMethod
  | .specialMethods => config.specialMethods
  | .name => config.name
  | .descriptor => config.descriptor
  | .code => config.code

def Violation.group : Violation → Group
  | conflictingVisibility _ | abstractConflict _ => .always
  | interfaceMissing _ | interfaceForbidden _ => .interfaceMethod
  | initializerForbidden _ | initializerReturn _ => .specialMethods
  | invalidName _ => .name
  | invalidDescriptor _ => .descriptor
  | unexpectedCode _ | codeCount _ => .code

variable {config wider : Config} {m : Method} {v : Violation} {group : Group} {flags : Flags}

lemma covers_eq : config.covers v = config.enables v.group := by
  cases v <;> rfl

lemma enables_everything : Config.everything.enables group = true := by
  cases group <;> rfl

lemma validate_eq :
    validate config m =
      Group.all.flatMap fun group => if config.enables group then group.findings m else [] := by
  -- These two are switched on by one condition together with the name that they are about.
  have hinterface :
      (if config.interfaceMethod && !m.isClassInitializer then interfaceRules m.flags else []) =
        if config.interfaceMethod then Group.findings m .interfaceMethod else [] := by
    simp only [Group.findings]
    split_ifs <;> simp_all
  have hspecial :
      (if config.specialMethods && m.isConstructor then initializerRules m else []) =
        if config.specialMethods then Group.findings m .specialMethods else [] := by
    simp only [Group.findings]
    split_ifs <;> simp_all
  rw [validate, hinterface, hspecial]
  simp only [Group.all, List.flatMap_cons, List.flatMap_nil, List.append_nil, ← List.append_assoc]
  rfl

section Membership

lemma mem_visibility_iff :
    v ∈ visibility flags ↔
      1 < flags.visibilityCount ∧ v = .conflictingVisibility flags.visibilityCount := by
  simp [visibility]

lemma mem_abstractRules_iff :
    v ∈ abstractRules flags ↔ flags.isAbstract ∧
      ∃ flag ∈ abstractExcludes, flags.has flag ∧ .abstractConflict flag = v := by
  simp [abstractRules, and_assoc]

lemma mem_outside_iff {allowed : List Flag} {flag : Flag} :
    flag ∈ outside allowed flags ↔ flag ∉ allowed ∧ flags.has flag := by
  simp [outside, Flags.toList, Flag.mem_all]

lemma mem_interfaceRules_iff :
    v ∈ interfaceRules flags ↔
      (∃ flag ∈ interfaceRequires, ¬ flags.has flag ∧ .interfaceMissing flag = v) ∨
        ∃ flag ∉ interfaceAllows, flags.has flag ∧ .interfaceForbidden flag = v := by
  simp [interfaceRules, mem_outside_iff, and_assoc]

lemma mem_initializerRules_iff :
    v ∈ initializerRules m ↔
      (∃ flag ∉ initializerAllows, m.flags.has flag ∧ .initializerForbidden flag = v) ∨
        ¬ [')', 'V'] <:+ m.descriptor.toList ∧ v = .initializerReturn m.descriptor := by
  simp [initializerRules, mem_outside_iff, and_assoc]

lemma mem_nameRules_iff {name : String} :
    v ∈ nameRules name ↔ ¬ isValidName name ∧ v = .invalidName name := by
  simp [nameRules]

lemma mem_descriptorRules_iff {descriptor : String} :
    v ∈ descriptorRules descriptor ↔
      (∀ d, Descriptor.parse descriptor ≠ .ok d) ∧ v = .invalidDescriptor descriptor := by
  rw [descriptorRules]
  cases Descriptor.parse descriptor <;> simp

lemma mem_codeRules_iff :
    v ∈ codeRules m ↔
      (∃ why, bodiless? m.flags = some why ∧
        0 < m.attributes.countP (fun a => a.kind = .code) ∧ v = .unexpectedCode why) ∨
      bodiless? m.flags = none ∧ m.attributes.countP (fun a => a.kind = .code) ≠ 1 ∧
        v = .codeCount (m.attributes.countP fun a => a.kind = .code) := by
  rw [codeRules]
  cases bodiless? m.flags <;> simp

end Membership

lemma group_of_mem_findings (h : v ∈ group.findings m) : v.group = group := by
  cases group with
  | always =>
    rcases List.mem_append.mp h with h | h
    · obtain ⟨-, rfl⟩ := mem_visibility_iff.mp h
      rfl
    · obtain ⟨-, flag, -, -, rfl⟩ := mem_abstractRules_iff.mp h
      rfl
  | interfaceMethod =>
    rw [Group.findings, List.mem_ite_nil_left] at h
    rcases mem_interfaceRules_iff.mp h.2 with ⟨flag, -, -, rfl⟩ | ⟨flag, -, -, rfl⟩ <;> rfl
  | specialMethods =>
    rw [Group.findings, List.mem_ite_nil_right] at h
    rcases mem_initializerRules_iff.mp h.2 with ⟨flag, -, -, rfl⟩ | ⟨-, rfl⟩ <;> rfl
  | name =>
    obtain ⟨-, rfl⟩ := mem_nameRules_iff.mp h
    rfl
  | descriptor =>
    obtain ⟨-, rfl⟩ := mem_descriptorRules_iff.mp h
    rfl
  | code => rcases mem_codeRules_iff.mp h with ⟨why, -, -, rfl⟩ | ⟨-, -, rfl⟩ <;> rfl

lemma mem_validate_iff : v ∈ validate config m ↔ config.covers v ∧ v ∈ v.group.findings m := by
  rw [validate_eq, covers_eq, List.mem_flatMap]
  constructor
  · rintro ⟨group, -, hv⟩
    rw [List.mem_ite_nil_right] at hv
    obtain rfl := group_of_mem_findings hv.2
    exact hv
  · intro hv
    refine ⟨v.group, v.group.mem_all, ?_⟩
    rwa [List.mem_ite_nil_right]

lemma filter_findings :
    (group.findings m).filter config.covers =
      if config.enables group then group.findings m else [] := by
  have hcovers : ∀ v ∈ group.findings m, config.covers v = config.enables group := by
    intro v hv
    rw [covers_eq, group_of_mem_findings hv]
  split_ifs with h
  · exact List.filter_eq_self.mpr fun v hv => (hcovers v hv).trans h
  · refine List.filter_eq_nil_iff.mpr fun v hv => ?_
    rwa [hcovers v hv]

lemma nodup_abstractRules : (abstractRules flags).Nodup := by
  rw [abstractRules]
  split_ifs
  · exact (List.Nodup.filter _ (by decide)).map fun _ _ => Violation.abstractConflict.inj
  · exact List.nodup_nil

lemma nodup_interfaceRules : (interfaceRules flags).Nodup := by
  refine List.nodup_append.mpr ⟨?_, ?_, ?_⟩
  · exact (List.Nodup.filter _ (by decide)).map fun _ _ => Violation.interfaceMissing.inj
  · exact (flags.nodup_toList.filter _).map fun _ _ => Violation.interfaceForbidden.inj
  · rintro v hv w hw rfl
    obtain ⟨flag, -, rfl⟩ := List.mem_map.mp hv
    obtain ⟨flag', -, ⟨⟩⟩ := List.mem_map.mp hw

lemma nodup_initializerRules : (initializerRules m).Nodup := by
  refine List.nodup_append.mpr ⟨?_, ?_, ?_⟩
  · exact (m.flags.nodup_toList.filter _).map fun _ _ => Violation.initializerForbidden.inj
  · split_ifs <;> simp
  · rintro v hv w hw rfl
    obtain ⟨flag, -, rfl⟩ := List.mem_map.mp hv
    split_ifs at hw <;> simp at hw

lemma nodup_findings : (group.findings m).Nodup := by
  cases group with
  | always =>
    refine List.nodup_append.mpr ⟨?_, nodup_abstractRules, ?_⟩
    · rw [visibility]
      split_ifs <;> simp
    · rintro v hv w hw rfl
      obtain ⟨-, rfl⟩ := mem_visibility_iff.mp hv
      obtain ⟨-, flag, -, -, ⟨⟩⟩ := mem_abstractRules_iff.mp hw
  | interfaceMethod =>
    rw [Group.findings]
    split_ifs
    · exact List.nodup_nil
    · exact nodup_interfaceRules
  | specialMethods =>
    rw [Group.findings]
    split_ifs
    · exact nodup_initializerRules
    · exact List.nodup_nil
  | name =>
    rw [Group.findings, nameRules]
    split_ifs <;> simp
  | descriptor =>
    rw [Group.findings, descriptorRules]
    split <;> simp
  | code =>
    rw [Group.findings, codeRules]
    split <;> split_ifs <;> simp

lemma nodup_validate : (validate config m).Nodup := by
  have hdistinct : Group.all.Nodup := by decide
  rw [validate_eq]
  refine List.nodup_flatMap.mpr ⟨fun group _ => ?_, hdistinct.imp fun hne => ?_⟩
  · split_ifs
    · exact nodup_findings
    · exact List.nodup_nil
  · intro v hv hv'
    rw [List.mem_ite_nil_right] at hv hv'
    exact hne ((group_of_mem_findings hv.2).symm.trans (group_of_mem_findings hv'.2))

lemma validate_eq_filter : validate config m = (validate .everything m).filter config.covers := by
  rw [validate_eq, validate_eq, List.filter_flatMap]
  congr 1
  funext group
  rw [if_pos enables_everything, filter_findings]

lemma filter_validate (h : ∀ v, config.covers v → wider.covers v) :
    (validate wider m).filter config.covers = validate config m := by
  have hnarrow : validate config m = (validate .everything m).filter config.covers :=
    validate_eq_filter
  rw [hnarrow, validate_eq_filter, List.filter_filter]
  congr 1
  funext v
  cases hv : config.covers v with
  | false => rfl
  | true => exact h v hv

end Validation

open Validation

theorem validate_selects (config : Config) (m : Method) :
    validate config m = (validate .everything m).filter config.covers ∧
      (validate config m).Nodup ∧
        ∀ wider : Config, (∀ v, config.covers v → wider.covers v) →
          (validate config m).Sublist (validate wider m) := by
  refine ⟨validate_eq_filter, nodup_validate, fun wider h => ?_⟩
  rw [← filter_validate h]
  exact List.filter_sublist

def returningInitializer : Method :=
  ⟨"<init>", "(I)I", .ofList [.accProtected, .accStatic, .accAbstract], []⟩

theorem validate_selects_initializer :
    validate .standard returningInitializer =
        [.abstractConflict .accStatic, .initializerForbidden .accStatic,
          .initializerForbidden .accAbstract, .initializerReturn "(I)I"] ∧
      (validate .standard returningInitializer).Sublist
        (validate .ofInterface returningInitializer) := by
  refine ⟨by decide +kernel, (validate_selects .standard _).2.2 .ofInterface fun v => ?_⟩
  cases v <;> simp [Config.covers, Config.standard, Config.ofInterface]

end Method

end ClassFile
