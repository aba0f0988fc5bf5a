import ClassFile.Descriptor.FieldType

/-!
# Method bodies

The body of a method is its code, which is opaque here, and the tables attached to it.
A table that is present and empty is not the same as no table.
-/

namespace ClassFile

/-- An entry of a line number table: the line from which the code at `startPc` comes. -/
structure LineNumber where
  /-- The offset of the first instruction. -/
  startPc : UInt16
  /-- The number of the source line. -/
  line : UInt16
deriving DecidableEq, Repr

/-- An entry of a local variable table. -/
structure LocalVariable where
  /-- The offset at which the variable begins to have a value. -/
  startPc : UInt16
  /-- The number of bytes of code in which it has one. -/
  length : UInt16
  /-- The name of the variable. -/
  name : String
  /-- The type of the variable, if recorded. -/
  type : Option FieldType
  /-- The generic signature of the variable, if recorded. -/
  signature : Option String
  /-- The slot of the variable. -/
  index : UInt16
deriving DecidableEq, Repr

/-- A table of the local variables of a method, with their types and their generic
signatures. -/
structure LocalVariableTable where
  /-- The variables, in order. -/
  entries : List LocalVariable
deriving DecidableEq, Repr

namespace LocalVariableTable

/-- The number of variables in a table. -/
def size (table : LocalVariableTable) : Nat := table.entries.length

/-- Whether a table lists no variable. -/
def isEmpty (table : LocalVariableTable) : Bool := table.entries.isEmpty

end LocalVariableTable

/-- An attribute that is carried along without being understood. -/
structure Attribute where
  /-- The name of the attribute. -/
  name : String
  /-- The bytes of the attribute. -/
  content : List UInt8
deriving DecidableEq, Repr

/-- The code of a method with its tables. -/
structure MethodBody where
  /-- The greatest depth of the operand stack. -/
  maxStack : UInt16
  /-- The number of slots for local variables. -/
  maxLocals : UInt16
  /-- The bytes of the instructions. -/
  code : List UInt8
  /-- The line number table, if there is one. -/
  lineNumbers : Option (List LineNumber)
  /-- The local variable table, if there is one. -/
  localVariables : Option LocalVariableTable
  /-- The other attributes, in order. -/
  attributes : List Attribute
deriving DecidableEq, Repr

end ClassFile
