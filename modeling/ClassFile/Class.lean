import ClassFile.Method

/-!
# Classes

A class lists its methods, and records about inner classes: about itself if it is one,
and about others that it mentions.
-/

namespace ClassFile

/-- What a class says of an inner class, be it the class itself or another one. -/
structure InnerClassRecord where
  /-- The inner class. -/
  inner : ClassName
  /-- The class of which it is a member, if it is one. -/
  outer : Option ClassName
  /-- The name it has in the source, absent for an anonymous class. -/
  simpleName : Option String
  /-- The access flags it has in the source. -/
  flags : Flags InnerClassFlag
deriving DecidableEq, Repr

namespace InnerClassRecord

/-- Whether the class has no name in the source. -/
def isAnonymous (r : InnerClassRecord) : Bool := r.simpleName.isNone

end InnerClassRecord

/-- A class or interface. -/
structure Class where
  /-- The access flags. -/
  flags : Flags ClassFlag
  /-- The name of the class. -/
  name : ClassName
  /-- The records about inner classes, in order. -/
  innerClasses : List InnerClassRecord
  /-- The methods, in order. -/
  methods : List Method

namespace Class

instance : BEq Class where
  beq a b :=
    a.flags == b.flags && a.name == b.name && a.innerClasses == b.innerClasses
      && a.methods == b.methods

/-- The first record that a class holds about itself. -/
def ownRecord? (c : Class) : Option InnerClassRecord :=
  c.innerClasses.find? fun r => r.inner = c.name

/-- The position of the first method with the given name and descriptor. -/
def methodIndex? (c : Class) (name : String) (descriptor : MethodDescriptor) : Option Nat :=
  c.methods.findIdx? fun m => m.name = name ∧ m.descriptor = descriptor

/-- The first method with the given name and descriptor. -/
def method? (c : Class) (name : String) (descriptor : MethodDescriptor) : Option Method :=
  c.methods.find? fun m => m.name = name ∧ m.descriptor = descriptor

end Class

end ClassFile
