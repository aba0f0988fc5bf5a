import ClassFile.Class

/-!
# Synthetic constructor parameters

A compiler puts parameters in front of those of the source for two kinds of classes.  The
constructors of an enum take the name and the ordinal of the constant.  Those of a named
inner class that is not static take the enclosing instance.  Local and anonymous classes
may take captured variables too, but nothing in the class file fixes their layout.

`Classification.of` tells the kind of a class from its flags and from its first record
about itself, and `Classification.syntheticParameters` gives the types of the parameters.
-/

namespace ClassFile

/-- The kinds of classes with respect to synthetic constructor parameters. -/
inductive Classification where
  /-- An enum. -/
  | enumClass
  /-- A named inner class of `outer` that is not static. -/
  | innerClass (outer : ClassName)
  /-- A class without a record about itself. -/
  | notInner
  /-- A static nested class or a nested interface. -/
  | staticOrInterface
  /-- A class without a name in the source. -/
  | anonymous
  /-- A named class that is no member of another one. -/
  | localClass
deriving DecidableEq, Repr

namespace Classification

/-- The flags of a record that rule out an enclosing instance. -/
def detached : Flags InnerClassFlag := {.accStatic} ∪ {.accInterface}

/-- The kind of an inner class that is no enum, given the record about it. -/
def ofRecord (r : InnerClassRecord) : Classification :=
  if r.flags.Meets detached then
    staticOrInterface
  else if r.isAnonymous then
    anonymous
  else
    match r.outer with
    | some outer => innerClass outer
    | none => localClass

/-- The kind of a class. -/
def of (c : Class) : Classification :=
  if ClassFlag.accEnum ∈ c.flags then
    enumClass
  else
    match c.ownRecord? with
    | some r => ofRecord r
    | none => notInner

/-- The types of the parameters put in front of those of the source, for the kinds that
have them. -/
def syntheticParameters : Classification → Option (List FieldType)
  | enumClass => some [.string, .base .int]
  | innerClass outer => some [.object outer]
  | notInner => none
  | staticOrInterface => none
  | anonymous => none
  | localClass => none

/-- The form of a kind shown to people. -/
def display : Classification → String
  | enumClass => "it is an enum"
  | innerClass outer => "it is an inner class of " ++ outer.text
  | notInner => "it is not an inner class"
  | staticOrInterface => "it is an interface or static"
  | anonymous => "it is anonymous"
  | localClass => "it is a local class"

end Classification

/-- The types with which every constructor of a class should begin, if the class is of a
kind that has them. -/
def Class.expectedSyntheticParameters (c : Class) : Option (List FieldType) :=
  (Classification.of c).syntheticParameters

end ClassFile
