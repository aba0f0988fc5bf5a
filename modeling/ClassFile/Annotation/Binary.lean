/-!
# Binary floating-point numbers by their bits

A number is kept as the bits of its interchange format: a sign, an exponent and a
fraction.  `==` compares numbers by value: a not-a-number differs from everything, itself
included, and the two zeros are equal.  Equality of the bits is `=`.
-/

namespace ClassFile

/-- A binary floating-point number with the given numbers of exponent and fraction
bits. -/
structure Binary (exponent fraction : Nat) where
  /-- The sign, the exponent and the fraction, from the highest bit down. -/
  bits : BitVec (1 + exponent + fraction)
deriving Repr

/-- Numbers of single precision. -/
abbrev Binary32 := Binary 8 23

/-- Numbers of double precision. -/
abbrev Binary64 := Binary 11 52

namespace Binary

variable {exponent fraction : Nat}

/-- The bits below the sign, as a number.  It grows with the absolute value. -/
def magnitude (x : Binary exponent fraction) : Nat :=
  x.bits.toNat % Nat.pow 2 (exponent + fraction)

/-- The magnitude of infinity: all exponent bits and no fraction bit. -/
def infinity (exponent fraction : Nat) : Nat := (Nat.pow 2 exponent - 1) * Nat.pow 2 fraction

/-- Whether the bits stand for no number. -/
def isNaN (x : Binary exponent fraction) : Bool := infinity exponent fraction < x.magnitude

/-- Whether the number is one of the two zeros. -/
def isZero (x : Binary exponent fraction) : Bool := x.magnitude = 0

/-- Equality of values. -/
def sameValue (x y : Binary exponent fraction) : Bool :=
  !x.isNaN && !y.isNaN && (x.bits == y.bits || (x.isZero && y.isZero))

instance : BEq (Binary exponent fraction) := ⟨sameValue⟩

end Binary

end ClassFile
