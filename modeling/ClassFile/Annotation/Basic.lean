import ClassFile.Annotation.Binary
import ClassFile.Descriptor.MethodDescriptor

/-!
# Annotations

An annotation has a type and named elements.  The value of an element is a constant, an
enum constant, a class, another annotation, or an array of values, so annotations and
values nest to any depth.

`==` compares annotations part by part, with floating-point constants compared by value;
hence an annotation that holds a not-a-number somewhere differs from itself.
-/

namespace ClassFile

mutual

/-- An annotation: its type and the values given to its elements. -/
structure Annotation where
  /-- The type of the annotation. -/
  type : FieldType
  /-- The elements that have a value, in order. -/
  elements : List Element

/-- An element of an annotation with the value given to it. -/
structure Element where
  /-- The name of the element. -/
  name : String
  /-- The value of the element. -/
  value : ElementValue

/-- The value of an element. -/
inductive ElementValue where
  | boolean (value : Bool)
  | int (value : Int32)
  | long (value : Int64)
  | float (value : Binary32)
  | double (value : Binary64)
  | string (value : String)
  /-- The constant `constant` of the enum with the type name `type`. -/
  | enumConstant (type constant : String)
  /-- The class literal with the given descriptor. -/
  | classLiteral (descriptor : ReturnDescriptor)
  | nested (value : Annotation)
  | array (values : List ElementValue)

end

mutual

/-- Equality of annotations, part by part. -/
def Annotation.same : Annotation → Annotation → Bool
  | ⟨type, elements⟩, ⟨type', elements'⟩ =>
    type == type' && Element.sameAll elements elements'
termination_by structural a => a

/-- Equality of elements: the same name and the same value. -/
def Element.same : Element → Element → Bool
  | ⟨name, value⟩, ⟨name', value'⟩ => name == name' && value.same value'
termination_by structural e => e

/-- Equality of lists of elements, member by member. -/
def Element.sameAll : List Element → List Element → Bool
  | [], [] => true
  | e :: es, e' :: es' => e.same e' && Element.sameAll es es'
  | _, _ => false
termination_by structural es => es

/-- Equality of element values.  Values of different kinds are not equal. -/
def ElementValue.same : ElementValue → ElementValue → Bool
  | .boolean a, .boolean b => a == b
  | .int a, .int b => a == b
  | .long a, .long b => a == b
  | .float a, .float b => a == b
  | .double a, .double b => a == b
  | .string a, .string b => a == b
  | .enumConstant type constant, .enumConstant type' constant' =>
    type == type' && constant == constant'
  | .classLiteral a, .classLiteral b => a == b
  | .nested a, .nested b => a.same b
  | .array as, .array bs => ElementValue.sameAll as bs
  | _, _ => false
termination_by structural v => v

/-- Equality of lists of element values, member by member. -/
def ElementValue.sameAll : List ElementValue → List ElementValue → Bool
  | [], [] => true
  | v :: vs, v' :: vs' => v.same v' && ElementValue.sameAll vs vs'
  | _, _ => false
termination_by structural vs => vs

end

instance : BEq Annotation where
  beq := Annotation.same

instance : BEq ElementValue where
  beq := ElementValue.same

namespace Annotation

/-- The annotation of a type that gives no element a value. -/
def marker (type : FieldType) : Annotation := ⟨type, []⟩

end Annotation

end ClassFile
