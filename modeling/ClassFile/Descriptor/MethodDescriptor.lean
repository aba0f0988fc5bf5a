import ClassFile.Descriptor.FieldType

/-!
# Method descriptors

A method takes a list of parameters and returns a value or nothing.  Its descriptor holds
the descriptors of the parameters between parentheses and then that of the return, which
is `V` for nothing.
-/

namespace ClassFile

/-- What a method returns: a value of a type, or nothing. -/
inductive ReturnDescriptor where
  | value (type : FieldType)
  | void
deriving DecidableEq, Repr

namespace ReturnDescriptor

/-- The characters of the descriptor of a return. -/
def spelling : ReturnDescriptor → List Char
  | value type => type.spelling
  | void => ['V']

/-- The descriptor of a return. -/
def descriptor (r : ReturnDescriptor) : String := String.ofList r.spelling

/-- The form of a return shown to people. -/
def display : ReturnDescriptor → String
  | value type => type.display
  | void => "void"

/-- A return is well formed when its type, if it has one, is. -/
def WellFormed : ReturnDescriptor → Prop
  | value type => type.WellFormed
  | void => True

instance : (r : ReturnDescriptor) → Decidable r.WellFormed
  | value type => inferInstanceAs (Decidable type.WellFormed)
  | void => inferInstanceAs (Decidable True)

end ReturnDescriptor

/-- The parameter types and the return of a method. -/
structure MethodDescriptor where
  /-- The types of the parameters, in order. -/
  parameters : List FieldType
  /-- What the method returns. -/
  result : ReturnDescriptor
deriving DecidableEq, Repr

namespace MethodDescriptor

/-- The characters of the descriptor of a method. -/
def spelling (d : MethodDescriptor) : List Char :=
  '(' :: d.parameters.flatMap FieldType.spelling ++ ')' :: d.result.spelling

/-- The descriptor of a method. -/
def descriptor (d : MethodDescriptor) : String := String.ofList d.spelling

/-- The form of a method descriptor shown to people: the descriptor itself. -/
def display (d : MethodDescriptor) : String := d.descriptor

/-- A method descriptor is well formed when all its parameters and its return are. -/
def WellFormed (d : MethodDescriptor) : Prop :=
  (∀ t ∈ d.parameters, t.WellFormed) ∧ d.result.WellFormed

instance (d : MethodDescriptor) : Decidable d.WellFormed :=
  inferInstanceAs (Decidable (_ ∧ _))

/-- The parameters start with the types `types`, in order. -/
def StartsWith (d : MethodDescriptor) (types : List FieldType) : Prop :=
  types <+: d.parameters

instance (d : MethodDescriptor) (types : List FieldType) : Decidable (d.StartsWith types) :=
  inferInstanceAs (Decidable (types <+: d.parameters))

end MethodDescriptor

end ClassFile
