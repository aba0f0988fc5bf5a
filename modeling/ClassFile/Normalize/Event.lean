import ClassFile.Normalize.Anomaly
import ClassFile.Normalize.Classification

/-!
# Log events

What a run can tell about itself.  An event says what happened; its level and its text are
functions of it.
-/

namespace ClassFile

/-- The importance of an event. -/
inductive LogLevel where
  | trace
  | debug
  | info
  | warn
deriving DecidableEq, Repr

namespace LogLevel

/-- The name of a level. -/
def name : LogLevel → String
  | trace => "trace"
  | debug => "debug"
  | info => "info"
  | warn => "warn"

end LogLevel

/-- Something that happened in a run. -/
inductive Event where
  /-- A stage begins with a class. -/
  | running (stage : String) (subject : ClassName)
  /-- A class was found to be of a kind, with or without synthetic parameters. -/
  | classified (subject : ClassName) (kind : Classification)
  /-- A constructor has no annotations of a visibility. -/
  | attributeAbsent (method : MethodRef) (visibility : Visibility)
  /-- The first entries of a list of annotations were removed. -/
  | entriesRemoved (method : MethodRef) (visibility : Visibility) (number : Nat)
  /-- A list of annotations had the right length already. -/
  | alreadyAligned (method : MethodRef) (visibility : Visibility)
  /-- An anomaly was found. -/
  | found (anomaly : Anomaly)
  /-- The local variable table of a method was removed. -/
  | tableRemoved (method : MethodRef) (size : Nat)
  /-- A stage of the host says something. -/
  | remark (level : LogLevel) (text : String)
deriving DecidableEq, Repr

namespace Event

/-- The level of an event. -/
def level : Event → LogLevel
  | running _ _ => .trace
  | classified _ _ => .debug
  | attributeAbsent _ _ => .trace
  | entriesRemoved _ _ _ => .info
  | alreadyAligned _ _ => .info
  | found _ => .warn
  | tableRemoved _ _ => .trace
  | remark level _ => level

/-- The text of an event. -/
def text : Event → String
  | running stage subject => "Running " ++ stage ++ " on " ++ subject.text
  | classified subject kind =>
    (if kind.syntheticParameters.isSome then "  Considering " else "  Not considering ")
      ++ subject.text ++ " for extra parameter annotations as " ++ kind.display
  | attributeAbsent method visibility =>
    "    " ++ method.display ++ " does not have a " ++ visibility.attributeName
      ++ " attribute"
  | entriesRemoved method visibility number =>
    "Found extra " ++ visibility.attributeName ++ " entries in " ++ method.display
      ++ ": removing " ++ Nat.repr number
  | alreadyAligned method visibility =>
    "Number of " ++ visibility.attributeName ++ " entries in " ++ method.display
      ++ " is already as we want"
  | found anomaly => anomaly.message
  | tableRemoved method size =>
    "    Removed " ++ Nat.repr size ++ " local variables from " ++ method.display
  | remark _ text => text

end Event

end ClassFile
