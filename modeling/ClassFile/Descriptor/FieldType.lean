import ClassFile.ClassName

/-!
# Field types

A field type is a base type, a class, or an array of a field type.  Its descriptor is the
text that stands for it in a class file: one letter for a base type, `L` name `;` for a
class, and `[` before the descriptor of the elements for an array.

`FieldType.spelling` is the descriptor as a list of characters, which is the form the
readers work on; `FieldType.display` is the form shown to people, as in `int[][]`.
-/

namespace ClassFile

/-- The types that are neither classes nor arrays, in the order in which they sort. -/
inductive BaseType where
  | boolean
  | char
  | float
  | double
  | byte
  | short
  | int
  | long
deriving DecidableEq, Repr, Ord

namespace BaseType

/-- The letter that stands for a base type in a descriptor. -/
def letter : BaseType → Char
  | boolean => 'Z'
  | char => 'C'
  | float => 'F'
  | double => 'D'
  | byte => 'B'
  | short => 'S'
  | int => 'I'
  | long => 'J'

/-- The base type a letter stands for. -/
def ofLetter? : Char → Option BaseType
  | 'Z' => some boolean
  | 'C' => some char
  | 'F' => some float
  | 'D' => some double
  | 'B' => some byte
  | 'S' => some short
  | 'I' => some int
  | 'J' => some long
  | _ => none

/-- The keyword for a base type. -/
def display : BaseType → String
  | boolean => "boolean"
  | char => "char"
  | float => "float"
  | double => "double"
  | byte => "byte"
  | short => "short"
  | int => "int"
  | long => "long"

/-- The descriptor of a base type: its letter. -/
def descriptor (b : BaseType) : String := String.ofList [b.letter]

end BaseType

/-- The type of a field, a parameter, a local variable or an array element. -/
inductive FieldType where
  | base (type : BaseType)
  | object (name : ClassName)
  | array (element : FieldType)
deriving DecidableEq, Repr

namespace FieldType

/-- The class of character strings, as a field type. -/
def string : FieldType := object ClassName.string

/-- The array type with `dimensions` levels over `element`. -/
def arrayOf (element : FieldType) : Nat → FieldType
  | 0 => element
  | dimensions + 1 => array (arrayOf element dimensions)

/-- The characters of the descriptor of a type. -/
def spelling : FieldType → List Char
  | base type => [type.letter]
  | object name => 'L' :: name.text.toList ++ [';']
  | array element => '[' :: element.spelling

/-- The descriptor of a type. -/
def descriptor (t : FieldType) : String := String.ofList t.spelling

/-- The form of a type shown to people: the keyword or the class name, and a pair of
brackets for each array level. -/
def display : FieldType → String
  | base type => type.display
  | object name => name.text
  | array element => element.display ++ "[]"

/-- A type is well formed when the class name at its leaf, if it has one, is. -/
def WellFormed : FieldType → Prop
  | base _ => True
  | object name => name.WellFormed
  | array element => element.WellFormed

instance decidableWellFormed : (t : FieldType) → Decidable t.WellFormed
  | base _ => inferInstanceAs (Decidable True)
  | object name => inferInstanceAs (Decidable name.WellFormed)
  | array element => decidableWellFormed element

end FieldType

end ClassFile
