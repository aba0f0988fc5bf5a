import ClassFile.Descriptor.MethodDescriptor

/-!
# The order of descriptors

Base types come before classes and classes before arrays.  Base types are ordered as they
are listed, classes by name, and arrays by their elements.  A value returned comes before
nothing returned.  Methods are ordered by their parameters, compared as in a dictionary,
and then by what they return.
-/

namespace ClassFile

namespace FieldType

/-- The order of field types. -/
def order : FieldType → FieldType → Ordering
  | base a, base b => compare a b
  | base _, object _ => .lt
  | base _, array _ => .lt
  | object _, base _ => .gt
  | object a, object b => compare a b
  | object _, array _ => .lt
  | array _, base _ => .gt
  | array _, object _ => .gt
  | array a, array b => order a b

instance : Ord FieldType := ⟨order⟩

end FieldType

namespace ReturnDescriptor

/-- The order of returns. -/
def order : ReturnDescriptor → ReturnDescriptor → Ordering
  | value a, value b => compare a b
  | value _, void => .lt
  | void, value _ => .gt
  | void, void => .eq

instance : Ord ReturnDescriptor := ⟨order⟩

end ReturnDescriptor

namespace MethodDescriptor

/-- The order of method descriptors. -/
def order (a b : MethodDescriptor) : Ordering :=
  (compare a.parameters b.parameters).then (compare a.result b.result)

instance : Ord MethodDescriptor := ⟨order⟩

end MethodDescriptor

/-- A list in ascending order, with equal members kept. -/
def ascending {α : Type} [Ord α] (l : List α) : List α :=
  l.mergeSort fun a b => (compare a b).isLE

end ClassFile
