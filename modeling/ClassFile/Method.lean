import ClassFile.Access
import ClassFile.Annotation.Basic
import ClassFile.Code

/-!
# Methods and their parameter annotations

A method has two attributes for the annotations of its parameters, one for those that are
visible at run time and one for those that are not.  Each is a list with an entry for
every parameter, and apart from the list a count of the parameters that can be annotated.
List and count may be absent, and nothing makes the count match the list.
-/

namespace ClassFile

/-- Whether annotations can be seen at run time. -/
inductive Visibility where
  | visible
  | invisible
deriving DecidableEq, Repr

namespace Visibility

/-- The name of the attribute that holds the parameter annotations of a visibility. -/
def attributeName : Visibility → String
  | visible => "RuntimeVisibleParameterAnnotations"
  | invisible => "RuntimeInvisibleParameterAnnotations"

end Visibility

/-- The annotations of the parameters of a method, of one visibility. -/
structure ParameterAnnotations where
  /-- For each parameter its annotations, if the attribute is there. -/
  lists : Option (List (List Annotation)) := none
  /-- The number of parameters that can be annotated, if known. -/
  count : Option UInt8 := none

namespace ParameterAnnotations

instance : BEq ParameterAnnotations where
  beq a b := a.lists == b.lists && a.count == b.count

/-- The number `n` as a count, or nothing if it does not fit a byte. -/
def count? (n : Nat) : Option UInt8 := if n ≤ 255 then some (UInt8.ofNat n) else none

/-- The given lists together with their number, or nothing if that number does not fit
the count. -/
def ofLists? (lists : List (List Annotation)) : Option ParameterAnnotations :=
  (count? lists.length).map fun n => { lists := some lists, count := some n }

end ParameterAnnotations

/-- What tells a method apart: its owner, its name and its descriptor. -/
structure MethodRef where
  /-- The class that declares the method. -/
  owner : ClassName
  /-- The name of the method. -/
  name : String
  /-- The descriptor of the method. -/
  descriptor : MethodDescriptor
deriving DecidableEq, Repr

namespace MethodRef

/-- The form of a reference shown to people, as in `pkg/Outer::run(I)V`. -/
def display (r : MethodRef) : String :=
  r.owner.text ++ "::" ++ r.name ++ r.descriptor.descriptor

end MethodRef

/-- A method of a class. -/
structure Method where
  /-- The access flags. -/
  flags : Flags MethodFlag
  /-- The name of the method. -/
  name : String
  /-- The descriptor of the method. -/
  descriptor : MethodDescriptor
  /-- The class that declares the method. -/
  owner : ClassName
  /-- The body, absent for abstract and native methods. -/
  body : Option MethodBody := none
  /-- The annotations of the parameters that are visible at run time. -/
  visible : ParameterAnnotations := {}
  /-- The annotations of the parameters that are not visible at run time. -/
  invisible : ParameterAnnotations := {}

namespace Method

instance : BEq Method where
  beq a b :=
    a.flags == b.flags && a.name == b.name && a.descriptor == b.descriptor
      && a.owner == b.owner && a.body == b.body && a.visible == b.visible
      && a.invisible == b.invisible

/-- The name that all constructors have. -/
def constructorName : String := "<init>"

/-- A method is a constructor when it has the name of one. -/
def IsConstructor (m : Method) : Prop := m.name = constructorName

instance (m : Method) : Decidable m.IsConstructor :=
  inferInstanceAs (Decidable (m.name = constructorName))

/-- The reference to a method. -/
def reference (m : Method) : MethodRef := ⟨m.owner, m.name, m.descriptor⟩

/-- The types of the parameters of a method. -/
def parameters (m : Method) : List FieldType := m.descriptor.parameters

/-- The parameter annotations of a visibility. -/
def annotations (m : Method) : Visibility → ParameterAnnotations
  | .visible => m.visible
  | .invisible => m.invisible

/-- The method with other parameter annotations of a visibility. -/
def setAnnotations (m : Method) (v : Visibility) (a : ParameterAnnotations) : Method :=
  match v with
  | .visible => { m with visible := a }
  | .invisible => { m with invisible := a }

end Method

end ClassFile
