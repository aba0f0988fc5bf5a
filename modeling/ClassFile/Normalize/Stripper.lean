import ClassFile.Normalize.Report

/-!
# Removing local variable tables

The names of local variables do not matter to a program that runs.  The stripper removes
the local variable table of every method that has variables in it.  A table that is
present and empty stays.
-/

namespace ClassFile

namespace MethodBody

/-- The local variable table of a body, provided that it is not empty. -/
def namedVariables? (b : MethodBody) : Option LocalVariableTable :=
  b.localVariables.filter fun table => !table.isEmpty

/-- The body without its local variable table, unless that is empty. -/
def stripped (b : MethodBody) : MethodBody :=
  match b.namedVariables? with
  | some _ => { b with localVariables := none }
  | none => b

end MethodBody

namespace Method

/-- The method with the local variable table of its body removed, unless that is
empty. -/
def stripped (m : Method) : Method := { m with body := m.body.map MethodBody.stripped }

end Method

/-- The pass that removes local variable tables. -/
structure LocalVariableStripper where
  /-- Whether the pass logs. -/
  verbose : Bool
deriving DecidableEq, Repr

namespace LocalVariableStripper

/-- Logs which table is removed from a method, if one is. -/
def noteRemoval (pass : LocalVariableStripper) (m : MethodRef) :
    Option LocalVariableTable → Report Unit
  | some table => Report.note pass.verbose (.tableRemoved m table.size)
  | none => pure ()

/-- Removes the local variable table of a method. -/
def strip (pass : LocalVariableStripper) (m : Method) : Report Method := do
  pass.noteRemoval m.reference (m.body.bind MethodBody.namedVariables?)
  return m.stripped

/-- Removes the local variable tables of a class. -/
def run (pass : LocalVariableStripper) (c : Class) : Report Class := do
  let methods ← c.methods.mapM pass.strip
  return { c with methods }

end LocalVariableStripper

end ClassFile
