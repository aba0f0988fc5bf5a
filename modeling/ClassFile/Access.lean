import ClassFile.Flags

/-!
# Access flags

The vocabularies of access flags: of a class, of a class as its inner class record
describes it, and of a method.  One bit may have another meaning in each of them, as
`0x0020` does for a class and for a method.
-/

namespace ClassFile

/-- The access flags of a class. -/
inductive ClassFlag where
  | accPublic
  | accFinal
  | accSuper
  | accInterface
  | accAbstract
  | accSynthetic
  | accAnnotationType
  | accEnum
  | accModule
deriving DecidableEq, Repr

instance : Flag ClassFlag where
  width := 16
  declared :=
    [.accPublic, .accFinal, .accSuper, .accInterface, .accAbstract, .accSynthetic,
      .accAnnotationType, .accEnum, .accModule]
  mask
    | .accPublic => 0x0001
    | .accFinal => 0x0010
    | .accSuper => 0x0020
    | .accInterface => 0x0200
    | .accAbstract => 0x0400
    | .accSynthetic => 0x1000
    | .accAnnotationType => 0x2000
    | .accEnum => 0x4000
    | .accModule => 0x8000
  name
    | .accPublic => "PUBLIC"
    | .accFinal => "FINAL"
    | .accSuper => "SUPER"
    | .accInterface => "INTERFACE"
    | .accAbstract => "ABSTRACT"
    | .accSynthetic => "SYNTHETIC"
    | .accAnnotationType => "ANNOTATION"
    | .accEnum => "ENUM"
    | .accModule => "MODULE"

/-- The access flags of a class in an inner class record. -/
inductive InnerClassFlag where
  | accPublic
  | accPrivate
  | accProtected
  | accStatic
  | accFinal
  | accInterface
  | accAbstract
  | accSynthetic
  | accAnnotationType
  | accEnum
deriving DecidableEq, Repr

instance : Flag InnerClassFlag where
  width := 16
  declared :=
    [.accPublic, .accPrivate, .accProtected, .accStatic, .accFinal, .accInterface,
      .accAbstract, .accSynthetic, .accAnnotationType, .accEnum]
  mask
    | .accPublic => 0x0001
    | .accPrivate => 0x0002
    | .accProtected => 0x0004
    | .accStatic => 0x0008
    | .accFinal => 0x0010
    | .accInterface => 0x0200
    | .accAbstract => 0x0400
    | .accSynthetic => 0x1000
    | .accAnnotationType => 0x2000
    | .accEnum => 0x4000
  name
    | .accPublic => "PUBLIC"
    | .accPrivate => "PRIVATE"
    | .accProtected => "PROTECTED"
    | .accStatic => "STATIC"
    | .accFinal => "FINAL"
    | .accInterface => "INTERFACE"
    | .accAbstract => "ABSTRACT"
    | .accSynthetic => "SYNTHETIC"
    | .accAnnotationType => "ANNOTATION"
    | .accEnum => "ENUM"

/-- The access flags of a method. -/
inductive MethodFlag where
  | accPublic
  | accPrivate
  | accProtected
  | accStatic
  | accFinal
  | accSynchronized
  | accBridge
  | accVarargs
  | accNative
  | accAbstract
  | accStrict
  | accSynthetic
deriving DecidableEq, Repr

instance : Flag MethodFlag where
  width := 16
  declared :=
    [.accPublic, .accPrivate, .accProtected, .accStatic, .accFinal, .accSynchronized,
      .accBridge, .accVarargs, .accNative, .accAbstract, .accStrict, .accSynthetic]
  mask
    | .accPublic => 0x0001
    | .accPrivate => 0x0002
    | .accProtected => 0x0004
    | .accStatic => 0x0008
    | .accFinal => 0x0010
    | .accSynchronized => 0x0020
    | .accBridge => 0x0040
    | .accVarargs => 0x0080
    | .accNative => 0x0100
    | .accAbstract => 0x0400
    | .accStrict => 0x0800
    | .accSynthetic => 0x1000
  name
    | .accPublic => "PUBLIC"
    | .accPrivate => "PRIVATE"
    | .accProtected => "PROTECTED"
    | .accStatic => "STATIC"
    | .accFinal => "FINAL"
    | .accSynchronized => "SYNCHRONIZED"
    | .accBridge => "BRIDGE"
    | .accVarargs => "VARARGS"
    | .accNative => "NATIVE"
    | .accAbstract => "ABSTRACT"
    | .accStrict => "STRICT"
    | .accSynthetic => "SYNTHETIC"

end ClassFile
