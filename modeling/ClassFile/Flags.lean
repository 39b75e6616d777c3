namespace ClassFile

inductive Flag where
  | accPublic | accPrivate | accProtected | accStatic | accFinal | accSynchronized | accBridge
  | accVarargs | accNative | accAbstract | accStrict | accSynthetic
deriving DecidableEq

namespace Flag

def all : List Flag :=
  [accPublic, accPrivate, accProtected, accStatic, accFinal, accSynchronized, accBridge,
    accVarargs, accNative, accAbstract, accStrict, accSynthetic]

theorem mem_all (flag : Flag) : flag ∈ all := by
  cases flag <;> simp [all]

def bit : Flag → UInt16
  | accPublic => 0x0001
  | accPrivate => 0x0002
  | accProtected => 0x0004
  | accStatic => 0x0008
  | accFinal => 0x0010
  | accSynchronized => 0x0020
  | accBridge => 0x0040
  | accVarargs => 0x0080
  | accNative => 0x0100
  | accAbstract => 0x0400
  | accStrict => 0x0800
  | accSynthetic => 0x1000

def name : Flag → String
  | accPublic => "public"
  | accPrivate => "private"
  | accProtected => "protected"
  | accStatic => "static"
  | accFinal => "final"
  | accSynchronized => "synchronized"
  | accBridge => "bridge"
  | accVarargs => "varargs"
  | accNative => "native"
  | accAbstract => "abstract"
  | accStrict => "strict"
  | accSynthetic => "synthetic"

def isIn (word : UInt16) (flag : Flag) : Bool := word &&& flag.bit ≠ 0

end Flag

structure Flags where
  isPublic : Bool
  isPrivate : Bool
  isProtected : Bool
  isStatic : Bool
  isFinal : Bool
  isSynchronized : Bool
  isBridge : Bool
  isVarargs : Bool
  isNative : Bool
  isAbstract : Bool
  isStrict : Bool
  isSynthetic : Bool
deriving DecidableEq

namespace Flags

def has (flags : Flags) : Flag → Bool
  | .accPublic => flags.isPublic
  | .accPrivate => flags.isPrivate
  | .accProtected => flags.isProtected
  | .accStatic => flags.isStatic
  | .accFinal => flags.isFinal
  | .accSynchronized => flags.isSynchronized
  | .accBridge => flags.isBridge
  | .accVarargs => flags.isVarargs
  | .accNative => flags.isNative
  | .accAbstract => flags.isAbstract
  | .accStrict => flags.isStrict
  | .accSynthetic => flags.isSynthetic

def ofPred (holds : Flag → Bool) : Flags where
  isPublic := holds .accPublic
  isPrivate := holds .accPrivate
  isProtected := holds .accProtected
  isStatic := holds .accStatic
  isFinal := holds .accFinal
  isSynchronized := holds .accSynchronized
  isBridge := holds .accBridge
  isVarargs := holds .accVarargs
  isNative := holds .accNative
  isAbstract := holds .accAbstract
  isStrict := holds .accStrict
  isSynthetic := holds .accSynthetic

@[simp]
theorem has_ofPred (holds : Flag → Bool) (flag : Flag) : (ofPred holds).has flag = holds flag := by
  cases flag <;> rfl

theorem ext_has {a b : Flags} (h : ∀ flag, a.has flag = b.has flag) : a = b := by
  cases a
  cases b
  simp only [Flags.mk.injEq]
  exact ⟨h .accPublic, h .accPrivate, h .accProtected, h .accStatic, h .accFinal,
    h .accSynchronized, h .accBridge, h .accVarargs, h .accNative, h .accAbstract, h .accStrict,
    h .accSynthetic⟩

def ofList (flags : List Flag) : Flags := ofPred fun flag => flags.contains flag

def toList (flags : Flags) : List Flag := Flag.all.filter flags.has

def ofWord (word : UInt16) : Flags := ofPred (Flag.isIn word)

def word (flags : Flags) : UInt16 :=
  flags.toList.foldl (fun word flag => word ||| flag.bit) 0

def names (flags : Flags) : List String := flags.toList.map Flag.name

def onlyPublic : Flags := ofList [.accPublic]

/-- Keeps one visibility flag at most: private before protected before public. -/
def normalized (flags : Flags) : Flags :=
  if flags.isPrivate then { flags with isProtected := false, isPublic := false }
  else if flags.isProtected then { flags with isPublic := false }
  else flags

def visibilityCount (flags : Flags) : Nat :=
  [flags.isPublic, flags.isPrivate, flags.isProtected].count true

end Flags

end ClassFile
