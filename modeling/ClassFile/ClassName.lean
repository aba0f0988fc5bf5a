/-!
# Class names

A class or interface is known by its binary name in internal form, with slashes between
the packages, as in `java/lang/String`.  Every text is a name; the names that can stand
in a descriptor are the well-formed ones.
-/

namespace ClassFile

/-- The name of a class or interface in internal form. -/
structure ClassName where
  /-- The text of the name. -/
  text : String
deriving DecidableEq, Repr

namespace ClassName

/-- Names are ordered by their texts, code point by code point. -/
instance : Ord ClassName where
  compare a b := compare a.text b.text

/-- A name is well formed when it can be told apart inside a descriptor: it is not empty
and holds no semicolon. -/
def WellFormed (name : ClassName) : Prop :=
  name.text.toList ≠ [] ∧ ';' ∉ name.text.toList

instance (name : ClassName) : Decidable name.WellFormed :=
  inferInstanceAs (Decidable (_ ∧ _))

/-- The class of character strings. -/
def string : ClassName := ⟨"java/lang/String"⟩

end ClassName

end ClassFile
