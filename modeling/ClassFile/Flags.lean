/-!
# Flag sets

A flag set is a word of bits, some of which have a name.  A vocabulary of flags is a type
`κ` with an instance of `Flag κ`: it gives the width of the word, the flags in the order
in which they are declared, and the mask and the name of each.

A set keeps every bit it was given, also those that no flag declares.  Only `Flags.all`,
the complement and the two restrictions to declared bits depend on the vocabulary.
-/

namespace ClassFile

/-- A vocabulary of flags for words of one width. -/
class Flag (κ : Type) where
  /-- The number of bits of a word. -/
  width : Nat
  /-- The flags, in the order of their declaration. -/
  declared : List κ
  /-- The bits of a flag. -/
  mask : κ → BitVec width
  /-- The name of a flag. -/
  name : κ → String

/-- A set of flags from the vocabulary `κ`. -/
structure Flags (κ : Type) [Flag κ] where
  /-- The word, with undeclared bits kept. -/
  bits : BitVec (Flag.width κ)

namespace Flags

variable {κ : Type} [Flag κ]

/-- Sets are equal when their words are. -/
instance : DecidableEq (Flags κ) := fun a b =>
  if h : a.bits = b.bits then
    isTrue (congrArg Flags.mk h)
  else
    isFalse fun e => h (congrArg Flags.bits e)

instance : Repr (Flags κ) := ⟨fun a => reprPrec a.bits⟩

/-- The set whose word has the value `n`, reduced to the width. -/
def ofNat (n : Nat) : Flags κ := ⟨BitVec.ofNat _ n⟩

/-- The value of the word of a set. -/
def toNat (a : Flags κ) : Nat := a.bits.toNat

instance : EmptyCollection (Flags κ) := ⟨⟨0⟩⟩

instance : Singleton κ (Flags κ) := ⟨fun f => ⟨Flag.mask f⟩⟩

instance : Union (Flags κ) := ⟨fun a b => ⟨a.bits ||| b.bits⟩⟩

instance : Inter (Flags κ) := ⟨fun a b => ⟨a.bits &&& b.bits⟩⟩

instance : SDiff (Flags κ) := ⟨fun a b => ⟨a.bits &&& ~~~b.bits⟩⟩

/-- A set is part of another when it has no bit that the other lacks. -/
instance : HasSubset (Flags κ) := ⟨fun a b => b ∩ a = a⟩

instance (a b : Flags κ) : Decidable (a ⊆ b) :=
  inferInstanceAs (Decidable (b ∩ a = a))

/-- A flag is in a set when all its bits are. -/
instance : Membership κ (Flags κ) := ⟨fun a f => {f} ⊆ a⟩

instance (a : Flags κ) (f : κ) : Decidable (f ∈ a) :=
  inferInstanceAs (Decidable ({f} ⊆ a))

/-- Two sets meet when they share a bit. -/
def Meets (a b : Flags κ) : Prop := a ∩ b ≠ ∅

instance (a b : Flags κ) : Decidable (a.Meets b) :=
  inferInstanceAs (Decidable (_ ≠ _))

/-- The set of all declared flags. -/
def all : Flags κ := (Flag.declared : List κ).foldl (fun a f => a ∪ {f}) ∅

/-- The declared bits of a set. -/
def truncate (a : Flags κ) : Flags κ := a ∩ all

/-- A set itself, if all its bits are declared. -/
def checked? (a : Flags κ) : Option (Flags κ) := if a ⊆ all then some a else none

/-- The declared bits that a set lacks. -/
def complement (a : Flags κ) : Flags κ := all \ a

/-- The flags of a set, in the order of their declaration. -/
def toList (a : Flags κ) : List κ := (Flag.declared : List κ).filter (· ∈ a)

/-- The flag of exactly the given name. -/
def named? (name : String) : Option κ :=
  (Flag.declared : List κ).find? fun f => Flag.name f = name

end Flags

end ClassFile
