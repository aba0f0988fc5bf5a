import ClassFile.Method

/-!
# Anomalies

An anomaly is a shape that normalization does not expect in a constructor.  It is reported
and does not stop the run.
-/

namespace ClassFile

/-- An unexpected shape of a constructor. -/
inductive Anomaly where
  /-- The constructor does not begin with the synthetic parameters of its class. -/
  | missingSynthetic (method : MethodRef) (expected : List FieldType)
  /-- The annotations of a visibility are a list of an unexpected length, or of one that
  is too large for the count. -/
  | unexpectedCount (method : MethodRef) (visibility : Visibility) (count : Nat)
deriving DecidableEq, Repr

namespace Anomaly

/-- The text of an anomaly. -/
def message : Anomaly → String
  | missingSynthetic method expected =>
    "Unexpected lack of synthetic parameters: expected ["
      ++ ", ".intercalate (expected.map FieldType.descriptor)
      ++ "] at the start of " ++ method.display
  | unexpectedCount method visibility count =>
    "Unexpected number of " ++ visibility.attributeName ++ " entries in " ++ method.display
      ++ ": " ++ Nat.repr count

end Anomaly

end ClassFile
