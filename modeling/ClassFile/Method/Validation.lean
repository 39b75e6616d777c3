import ClassFile.Descriptor.Parser
import ClassFile.Method.Basic

/-! Legality of methods. A caller chooses which groups of rules apply and gets everything found, in
a fixed order. -/

namespace ClassFile.Method

namespace Validation

/-- The rules that are switched on; those on visibility and on abstract methods always are.
`specialMethods` are the rules for `<init>`, `code` those on the number of `Code` attributes. -/
structure Config where
  interfaceMethod : Bool
  specialMethods : Bool
  name : Bool
  descriptor : Bool
  code : Bool
deriving DecidableEq

namespace Config

def standard : Config := ⟨false, true, true, true, false⟩

def ofInterface : Config := { standard with interfaceMethod := true }

def strict : Config := { standard with code := true }

def disabled : Config := ⟨false, false, false, false, false⟩

def everything : Config := ⟨true, true, true, true, true⟩

end Config

inductive Bodiless where
  | byAbstract | byNative
deriving DecidableEq

inductive Violation where
  | conflictingVisibility (count : Nat)
  | abstractConflict (flag : Flag)
  | interfaceMissing (flag : Flag)
  | interfaceForbidden (flag : Flag)
  | initializerForbidden (flag : Flag)
  | initializerReturn (descriptor : String)
  | invalidName (name : String)
  | invalidDescriptor (descriptor : String)
  | unexpectedCode (why : Bodiless)
  | codeCount (count : Nat)
deriving DecidableEq

def Config.covers (config : Config) : Violation → Bool
  | .conflictingVisibility _ | .abstractConflict _ => true
  | .interfaceMissing _ | .interfaceForbidden _ => config.interfaceMethod
  | .initializerForbidden _ | .initializerReturn _ => config.specialMethods
  | .invalidName _ => config.name
  | .invalidDescriptor _ => config.descriptor
  | .unexpectedCode _ | .codeCount _ => config.code

def Bodiless.label : Bodiless → String
  | byAbstract => "Abstract"
  | byNative => "Native"

namespace Violation

def message : Violation → String
  | conflictingVisibility count =>
    s!"At most one of public, private and protected may be set, found {count}"
  | abstractConflict flag => "Abstract method must not be " ++ flag.name
  | interfaceMissing flag => "Interface method must be " ++ flag.name
  | interfaceForbidden flag => "Interface method must not be " ++ flag.name
  | initializerForbidden flag => "Instance initializer must not be " ++ flag.name
  | initializerReturn descriptor =>
    s!"Instance initializer must return void, descriptor is {descriptor}"
  | invalidName name => "Invalid method name " ++ Text.Quoted.quoteString name
  | invalidDescriptor descriptor =>
    "Invalid method descriptor " ++ Text.Quoted.quoteString descriptor
  | unexpectedCode why => why.label ++ " method must not have a Code attribute"
  | codeCount count => s!"Method must have exactly one Code attribute, found {count}"

end Violation

def abstractExcludes : List Flag :=
  [.accFinal, .accNative, .accPrivate, .accStatic, .accStrict, .accSynchronized]

def interfaceRequires : List Flag := [.accPublic, .accAbstract]

def interfaceAllows : List Flag :=
  [.accPublic, .accAbstract, .accVarargs, .accBridge, .accSynthetic]

def initializerAllows : List Flag :=
  [.accPublic, .accPrivate, .accProtected, .accStrict, .accVarargs, .accSynthetic]

def outside (allowed : List Flag) (flags : Flags) : List Flag :=
  flags.toList.filter fun flag => !allowed.contains flag

def visibility (flags : Flags) : List Violation :=
  if flags.visibilityCount > 1 then [.conflictingVisibility flags.visibilityCount] else []

def abstractRules (flags : Flags) : List Violation :=
  if flags.isAbstract then (abstractExcludes.filter flags.has).map .abstractConflict else []

def interfaceRules (flags : Flags) : List Violation :=
  (interfaceRequires.filter fun flag => !flags.has flag).map .interfaceMissing ++
    (outside interfaceAllows flags).map .interfaceForbidden

def initializerRules (m : Method) : List Violation :=
  (outside initializerAllows m.flags).map .initializerForbidden ++
    if [')', 'V'].isSuffixOf m.descriptor.toList then [] else [.initializerReturn m.descriptor]

def reserved : List Char := ['.', ';', '[', '/', '<', '>']

def isValidName (name : String) : Bool :=
  name = instanceInitializer || name = classInitializer ||
    !name.isEmpty && name.toList.all fun c => !reserved.contains c

def nameRules (name : String) : List Violation :=
  if isValidName name then [] else [.invalidName name]

def descriptorRules (descriptor : String) : List Violation :=
  match Descriptor.parse descriptor with
  | .ok _ => []
  | .error _ => [.invalidDescriptor descriptor]

def bodiless? (flags : Flags) : Option Bodiless :=
  if flags.isAbstract then some .byAbstract
  else if flags.isNative then some .byNative
  else none

def codeRules (m : Method) : List Violation :=
  let count := m.attributes.countP fun a => a.kind = .code
  match bodiless? m.flags with
  | some why => if count > 0 then [.unexpectedCode why] else []
  | none => if count = 1 then [] else [.codeCount count]

end Validation

open Validation in
/-- Everything in `m` that breaks a rule which `config` asks for. The interface rules exempt the
class initializer; the rules on visibility and on abstract methods do not. -/
def validate (config : Config) (m : Method) : List Violation :=
  visibility m.flags ++ abstractRules m.flags ++
    (if config.interfaceMethod && !m.isClassInitializer then interfaceRules m.flags else []) ++
    (if config.specialMethods && m.isConstructor then initializerRules m else []) ++
    (if config.name then nameRules m.name else []) ++
    (if config.descriptor then descriptorRules m.descriptor else []) ++
    (if config.code then codeRules m else [])

end ClassFile.Method
