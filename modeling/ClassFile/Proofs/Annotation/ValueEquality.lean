import ClassFile.Class
import Mathlib.Tactic.Tauto
import Mathlib.Tactic.Use

/-!
# What equality of annotated values decides

Floating-point numbers are compared by value, so that `==` on annotations, and on all that
holds them, is not equality.  It looks away from the sign of a zero, and it never holds of
anything in which there is a not-a-number.

For each type there is a function that tells whether a not-a-number occurs in a value, and
one that replaces every negative zero by the positive one.  Two values are equal by `==`
exactly when there is no not-a-number in the first one and both are the same after that
replacement.  Since the replacement does not touch any not-a-number, `==` is symmetric and
transitive, and a value is equal to itself exactly when there is no not-a-number in it.
What a not-a-number is can be seen from the exponent and the fraction alone
(`Binary.isNaN_iff`).

Annotations and element values are defined together with lists of them, and so are the
functions and the proofs.
-/

namespace ClassFile

/-! ### Comparing by value -/

/-- The equality of a type compares by value, where `hasNaN` tells whether there is a
not-a-number in a value and `foldZeros` makes its zeros positive. -/
structure ComparesByValue {α : Type} [BEq α] (hasNaN : α → Bool) (foldZeros : α → α) :
    Prop where
  beq_iff : ∀ a b : α, a == b ↔ hasNaN a = false ∧ foldZeros a = foldZeros b
  hasNaN_foldZeros : ∀ a : α, hasNaN (foldZeros a) = hasNaN a

namespace ComparesByValue

section

variable {α : Type} [BEq α] {hasNaN : α → Bool} {foldZeros : α → α}

/-- Equal values have a not-a-number in both of them or in neither. -/
theorem hasNaN_eq
    (h : ComparesByValue hasNaN foldZeros) {a b : α} (hab : foldZeros a = foldZeros b) :
  hasNaN a = hasNaN b
  := by
  rw [← h.hasNaN_foldZeros a, hab, h.hasNaN_foldZeros]

/-- Lists of values that are compared by value are so too. -/
theorem list
    (h : ComparesByValue hasNaN foldZeros) :
  ComparesByValue (fun l : List α => l.any hasNaN) (List.map foldZeros)
  := by
  constructor
  · intro l l'
    induction l generalizing l' with
    | nil => cases l' <;> simp
    | cons a l ih =>
      cases l' with
      | nil => simp
      | cons b l' =>
        rw [List.cons_beq_cons, Bool.and_eq_true, h.beq_iff, ih, and_and_and_comm]
        simp
  · intro l
    simp [List.any_map, Function.comp_def, h.hasNaN_foldZeros]

/-- Optional values that are compared by value are so too. -/
theorem option
    (h : ComparesByValue hasNaN foldZeros) :
  ComparesByValue (fun a : Option α => a.any hasNaN) (Option.map foldZeros)
  := by
  constructor
  · intro a b
    cases a with
    | none => cases b <;> simp
    | some a =>
      cases b with
      | none => simp
      | some b => simp [h.beq_iff a b]
  · intro a
    cases a with
    | none => rfl
    | some a => simp [h.hasNaN_foldZeros]

end

end ComparesByValue

/-! ### Numbers -/

namespace Binary

variable {exponent fraction : Nat}

/-- The zero without a sign. -/
def positiveZero : Binary exponent fraction := ⟨0#_⟩

/-- The zero with a sign, which has no other bit. -/
def negativeZero : Binary exponent fraction := ⟨BitVec.twoPow _ (exponent + fraction)⟩

/-- The number, unless it is the negative zero, which becomes the positive one. -/
def foldZero (x : Binary exponent fraction) : Binary exponent fraction :=
  if x.bits = negativeZero.bits then positiveZero else x

theorem eq_iff_bits
    {x y : Binary exponent fraction} :
  x = y ↔ x.bits = y.bits
  := by
  cases x
  cases y
  rw [mk.injEq]

/-- The bits below the sign are zero in two words only. -/
theorem isZero_iff
    {x : Binary exponent fraction} :
  x.isZero ↔ x = positiveZero ∨ x = negativeZero
  := by
  have hzero : x = positiveZero ↔ x.bits.toNat = 0 := by
    rw [eq_iff_bits, positiveZero, BitVec.toNat_eq, BitVec.toNat_zero]
  have hsign : x = negativeZero ↔ x.bits.toNat = Nat.pow 2 (exponent + fraction) := by
    rw [eq_iff_bits, negativeZero, BitVec.toNat_eq, BitVec.toNat_twoPow, Nat.mod_eq_of_lt]
    · rfl
    · apply Nat.pow_lt_pow_right <;> omega
  have hpow : Nat.pow 2 (1 + exponent + fraction) = Nat.pow 2 (exponent + fraction) * 2 := by
    rw [Nat.add_assoc, Nat.add_comm]
    rfl
  have hbound : x.bits.toNat < Nat.pow 2 (exponent + fraction) * 2 :=
    Nat.lt_of_lt_of_eq x.bits.isLt hpow
  rw [hzero, hsign, isZero, magnitude, decide_eq_true_iff]
  constructor
  · intro h
    obtain ⟨k, hk⟩ := Nat.dvd_of_mod_eq_zero h
    have hk2 : k < 2 := by
      rw [hk] at hbound
      apply Nat.lt_of_mul_lt_mul_left hbound
    obtain rfl | rfl : k = 0 ∨ k = 1 := by omega
    · left
      rw [hk, Nat.mul_zero]
    · right
      rw [hk, Nat.mul_one]
  · rintro (h | h)
    · rw [h, Nat.zero_mod]
    · rw [h, Nat.mod_self]

/-- The bits of the exponent. -/
def exponentBits (x : Binary exponent fraction) : BitVec exponent :=
  x.bits.extractLsb' fraction exponent

/-- The bits of the fraction, below those of the exponent. -/
def fractionBits (x : Binary exponent fraction) : BitVec fraction :=
  x.bits.extractLsb' 0 fraction

/-- The bits below the sign are those of the exponent and those of the fraction. -/
theorem magnitude_eq
    (x : Binary exponent fraction) :
  x.magnitude = x.fractionBits.toNat + Nat.pow 2 fraction * x.exponentBits.toNat
  := by
  have hpow : Nat.pow 2 (exponent + fraction) = Nat.pow 2 fraction * Nat.pow 2 exponent := by
    rw [Nat.add_comm]
    apply Nat.pow_add
  rw [magnitude, hpow, Nat.mod_mul, fractionBits, exponentBits, BitVec.extractLsb'_toNat,
    BitVec.extractLsb'_toNat, Nat.shiftRight_zero, Nat.shiftRight_eq_div_pow]
  rfl

/-- Bits stand for no number exactly when those of the exponent are all ones and those of
the fraction are not all zeros. -/
theorem isNaN_iff
    {x : Binary exponent fraction} :
  x.isNaN ↔ x.exponentBits = BitVec.allOnes exponent ∧ x.fractionBits ≠ 0#_
  := by
  have hfraction : x.fractionBits.toNat < Nat.pow 2 fraction := x.fractionBits.isLt
  have hexponent : x.exponentBits.toNat < Nat.pow 2 exponent := x.exponentBits.isLt
  have hones : x.exponentBits = BitVec.allOnes exponent
      ↔ x.exponentBits.toNat = Nat.pow 2 exponent - 1 := by
    rw [BitVec.toNat_eq, BitVec.toNat_allOnes]
    rfl
  have hzeros : x.fractionBits ≠ 0#_ ↔ 0 < x.fractionBits.toNat := by
    rw [ne_eq, BitVec.toNat_eq, BitVec.toNat_zero, Nat.pos_iff_ne_zero]
  rw [isNaN, decide_eq_true_iff, infinity, magnitude_eq, hones, hzeros,
    Nat.mul_comm _ (Nat.pow 2 fraction)]
  constructor
  · intro h
    -- An exponent that is smaller by one is out by more than any fraction can make up for.
    have hge : Nat.pow 2 exponent - 1 ≤ x.exponentBits.toNat := by
      apply Nat.le_of_not_lt
      intro hlt
      have hstep := Nat.mul_le_mul_left (Nat.pow 2 fraction) (Nat.succ_le_of_lt hlt)
      rw [Nat.mul_succ] at hstep
      omega
    have hexact : x.exponentBits.toNat = Nat.pow 2 exponent - 1 := by omega
    rw [hexact] at h
    use hexact
    omega
  · rintro ⟨hexact, hpos⟩
    rw [hexact]
    omega

/-- A zero is a number. -/
theorem isNaN_of_isZero
    {x : Binary exponent fraction} (h : x.isZero) :
  x.isNaN = false
  := by
  have hmagnitude : x.magnitude = 0 := of_decide_eq_true h
  rw [isNaN, hmagnitude]
  simp

theorem foldZero_of_isZero
    {x : Binary exponent fraction} (h : x.isZero) :
  x.foldZero = positiveZero
  := by
  rw [foldZero]
  split
  · rfl
  · next hsign =>
    obtain rfl | rfl := isZero_iff.mp h
    · rfl
    · contradiction

theorem foldZero_of_not_isZero
    {x : Binary exponent fraction} (h : ¬ x.isZero) :
  x.foldZero = x
  := by
  have hsign : x.bits ≠ negativeZero.bits := by
    intro hbits
    apply h (isZero_iff.mpr (Or.inr (eq_iff_bits.mpr hbits)))
  rw [foldZero, if_neg hsign]

/-- The replacement of zeros makes numbers the same exactly when they have the same bits or
are zeros. -/
theorem foldZero_eq_iff
    {x y : Binary exponent fraction} :
  x.foldZero = y.foldZero ↔ x = y ∨ x.isZero ∧ y.isZero
  := by
  have hpositive : (positiveZero : Binary exponent fraction).isZero :=
    isZero_iff.mpr (Or.inl rfl)
  by_cases hx : x.isZero
  · by_cases hy : y.isZero
    · simp [foldZero_of_isZero hx, foldZero_of_isZero hy, hx, hy]
    · rw [foldZero_of_isZero hx, foldZero_of_not_isZero hy]
      grind
  · by_cases hy : y.isZero
    · rw [foldZero_of_isZero hy, foldZero_of_not_isZero hx]
      grind
    · simp [foldZero_of_not_isZero hx, foldZero_of_not_isZero hy, hx]

/-- Numbers are compared by value. -/
theorem comparesByValue :
  ComparesByValue (α := Binary exponent fraction) isNaN foldZero
  := by
  constructor
  · intro x y
    have hbeq : x == y
        ↔ x.isNaN = false ∧ y.isNaN = false ∧ (x = y ∨ x.isZero ∧ y.isZero) := by
      change x.sameValue y ↔ _
      simp [sameValue, eq_iff_bits, and_assoc]
    rw [hbeq, foldZero_eq_iff]
    constructor
    · rintro ⟨hx, -, hsame⟩
      use hx
    · rintro ⟨hx, rfl | ⟨hzero, hzero'⟩⟩
      · use hx, hx, Or.inl rfl
      · use hx, isNaN_of_isZero hzero', Or.inr ⟨hzero, hzero'⟩
  · intro x
    by_cases hx : x.isZero
    · rw [foldZero_of_isZero hx, isNaN_of_isZero hx]
      apply isNaN_of_isZero (isZero_iff.mpr (Or.inl rfl))
    · rw [foldZero_of_not_isZero hx]

-- The two zeros are different words of the same value.
example :
  (positiveZero : Binary 8 23).bits ≠ negativeZero.bits
    ∧ (positiveZero : Binary 8 23) == negativeZero
  := by decide

-- A not-a-number differs from itself; infinity, which has no fraction, does not.
example :
  (⟨0x7fc00000#32⟩ : Binary 8 23) != ⟨0x7fc00000#32⟩
    ∧ (⟨0x7f800000#32⟩ : Binary 8 23) == ⟨0x7f800000#32⟩
  := by decide

end Binary

/-! ### Annotations and element values -/

mutual

/-- Whether there is a not-a-number in an annotation. -/
def Annotation.hasNaN : Annotation → Bool
  | ⟨_, elements⟩ => Element.anyNaN elements
termination_by structural a => a

/-- Whether there is a not-a-number in the value of an element. -/
def Element.hasNaN : Element → Bool
  | ⟨_, value⟩ => value.hasNaN
termination_by structural e => e

/-- Whether there is a not-a-number in the value of one of the elements. -/
def Element.anyNaN : List Element → Bool
  | [] => false
  | e :: es => e.hasNaN || Element.anyNaN es
termination_by structural es => es

/-- Whether there is a not-a-number in an element value. -/
def ElementValue.hasNaN : ElementValue → Bool
  | .boolean _ => false
  | .int _ => false
  | .long _ => false
  | .float x => x.isNaN
  | .double x => x.isNaN
  | .string _ => false
  | .enumConstant _ _ => false
  | .classLiteral _ => false
  | .nested a => a.hasNaN
  | .array vs => ElementValue.anyNaN vs
termination_by structural v => v

/-- Whether there is a not-a-number in one of the element values. -/
def ElementValue.anyNaN : List ElementValue → Bool
  | [] => false
  | v :: vs => v.hasNaN || ElementValue.anyNaN vs
termination_by structural vs => vs

end

mutual

/-- The annotation with all its zeros positive. -/
def Annotation.foldZeros : Annotation → Annotation
  | ⟨type, elements⟩ => ⟨type, Element.foldAllZeros elements⟩
termination_by structural a => a

/-- The element with all zeros in its value positive. -/
def Element.foldZeros : Element → Element
  | ⟨name, value⟩ => ⟨name, value.foldZeros⟩
termination_by structural e => e

/-- The elements with all zeros in their values positive. -/
def Element.foldAllZeros : List Element → List Element
  | [] => []
  | e :: es => e.foldZeros :: Element.foldAllZeros es
termination_by structural es => es

/-- The element value with all its zeros positive. -/
def ElementValue.foldZeros : ElementValue → ElementValue
  | .boolean b => .boolean b
  | .int n => .int n
  | .long n => .long n
  | .float x => .float x.foldZero
  | .double x => .double x.foldZero
  | .string s => .string s
  | .enumConstant type constant => .enumConstant type constant
  | .classLiteral d => .classLiteral d
  | .nested a => .nested a.foldZeros
  | .array vs => .array (ElementValue.foldAllZeros vs)
termination_by structural v => v

/-- The element values with all their zeros positive. -/
def ElementValue.foldAllZeros : List ElementValue → List ElementValue
  | [] => []
  | v :: vs => v.foldZeros :: ElementValue.foldAllZeros vs
termination_by structural vs => vs

end

mutual

/-- Annotations are compared by value. -/
theorem Annotation.same_iff
    (a b : Annotation) :
  a.same b ↔ a.hasNaN = false ∧ a.foldZeros = b.foldZeros
  := by
  obtain ⟨type, elements⟩ := a
  obtain ⟨type', elements'⟩ := b
  simp only [ Annotation.same, Bool.and_eq_true, beq_iff_eq, Element.sameAll_iff elements elements',
    Annotation.hasNaN, Annotation.foldZeros, Annotation.mk.injEq]
  rw [and_left_comm]
termination_by structural a

/-- Elements are compared by value. -/
theorem Element.same_iff
    (e e' : Element) :
  e.same e' ↔ e.hasNaN = false ∧ e.foldZeros = e'.foldZeros
  := by
  obtain ⟨name, value⟩ := e
  obtain ⟨name', value'⟩ := e'
  simp only [Element.same, Bool.and_eq_true, beq_iff_eq, value.same_iff value', Element.hasNaN,
    Element.foldZeros, Element.mk.injEq]
  rw [and_left_comm]
termination_by structural e

/-- Lists of elements are compared by value. -/
theorem Element.sameAll_iff
    (es es' : List Element) :
  Element.sameAll es es'
    ↔ Element.anyNaN es = false ∧ Element.foldAllZeros es = Element.foldAllZeros es'
  := by
  cases es with
  | nil => cases es' <;> simp [Element.sameAll, Element.anyNaN, Element.foldAllZeros]
  | cons e es =>
    cases es' with
    | nil => simp [Element.sameAll, Element.foldAllZeros]
    | cons e' es' =>
      rw [Element.sameAll, Bool.and_eq_true, e.same_iff e', Element.sameAll_iff es es',
        and_and_and_comm]
      simp [Element.anyNaN, Element.foldAllZeros]
termination_by structural es

/-- Element values are compared by value. -/
theorem ElementValue.same_iff
    (v w : ElementValue) :
  v.same w ↔ v.hasNaN = false ∧ v.foldZeros = w.foldZeros
  := by
  -- Values of different kinds stay so when zeros are replaced.
  cases v with
  | float x =>
    cases w <;> simp [ElementValue.same, ElementValue.hasNaN, ElementValue.foldZeros,
      Binary.comparesByValue.beq_iff]
  | double x =>
    cases w <;> simp [ElementValue.same, ElementValue.hasNaN, ElementValue.foldZeros,
      Binary.comparesByValue.beq_iff]
  | nested a =>
    cases w <;> simp [ElementValue.same, ElementValue.hasNaN, ElementValue.foldZeros,
      a.same_iff]
  | array vs =>
    cases w <;> simp [ElementValue.same, ElementValue.hasNaN, ElementValue.foldZeros,
      ElementValue.sameAll_iff vs]
  -- The other kinds have no zeros in them and are compared by equality.
  | _ => cases w <;> simp [ElementValue.same, ElementValue.hasNaN, ElementValue.foldZeros]
termination_by structural v

/-- Lists of element values are compared by value. -/
theorem ElementValue.sameAll_iff
    (vs ws : List ElementValue) :
  ElementValue.sameAll vs ws
    ↔ ElementValue.anyNaN vs = false
      ∧ ElementValue.foldAllZeros vs = ElementValue.foldAllZeros ws
  := by
  cases vs with
  | nil =>
    cases ws <;> simp [ElementValue.sameAll, ElementValue.anyNaN, ElementValue.foldAllZeros]
  | cons v vs =>
    cases ws with
    | nil => simp [ElementValue.sameAll, ElementValue.foldAllZeros]
    | cons w ws =>
      rw [ElementValue.sameAll, Bool.and_eq_true, v.same_iff w, ElementValue.sameAll_iff vs ws,
        and_and_and_comm]
      simp [ElementValue.anyNaN, ElementValue.foldAllZeros]
termination_by structural vs

end

mutual

/-- There is a not-a-number in an annotation whether or not its zeros are positive. -/
theorem Annotation.hasNaN_foldZeros
    (a : Annotation) :
  a.foldZeros.hasNaN = a.hasNaN
  := by
  obtain ⟨type, elements⟩ := a
  rw [ Annotation.foldZeros, Annotation.hasNaN, Annotation.hasNaN, Element.anyNaN_foldAllZeros]
termination_by structural a

theorem Element.hasNaN_foldZeros
    (e : Element) :
  e.foldZeros.hasNaN = e.hasNaN
  := by
  obtain ⟨name, value⟩ := e
  rw [Element.foldZeros, Element.hasNaN, Element.hasNaN, value.hasNaN_foldZeros]
termination_by structural e

theorem Element.anyNaN_foldAllZeros
    (es : List Element) :
  Element.anyNaN (Element.foldAllZeros es) = Element.anyNaN es
  := by
  cases es with
  | nil => rfl
  | cons e es =>
    rw [Element.foldAllZeros, Element.anyNaN, Element.anyNaN, e.hasNaN_foldZeros,
      Element.anyNaN_foldAllZeros es]
termination_by structural es

theorem ElementValue.hasNaN_foldZeros
    (v : ElementValue) :
  v.foldZeros.hasNaN = v.hasNaN
  := by
  cases v with
  | float x => apply Binary.comparesByValue.hasNaN_foldZeros
  | double x => apply Binary.comparesByValue.hasNaN_foldZeros
  | nested a => apply a.hasNaN_foldZeros
  | array vs => apply ElementValue.anyNaN_foldAllZeros
  | _ => rfl
termination_by structural v

theorem ElementValue.anyNaN_foldAllZeros
    (vs : List ElementValue) :
  ElementValue.anyNaN (ElementValue.foldAllZeros vs) = ElementValue.anyNaN vs
  := by
  cases vs with
  | nil => rfl
  | cons v vs =>
    rw [ElementValue.foldAllZeros, ElementValue.anyNaN, ElementValue.anyNaN, v.hasNaN_foldZeros,
      ElementValue.anyNaN_foldAllZeros vs]
termination_by structural vs

end

theorem Annotation.comparesByValue :
  ComparesByValue hasNaN foldZeros
  := ⟨same_iff, hasNaN_foldZeros⟩

theorem ElementValue.comparesByValue :
  ComparesByValue hasNaN foldZeros
  := ⟨same_iff, hasNaN_foldZeros⟩

/-! ### Methods and classes -/

namespace ParameterAnnotations

/-- Whether there is a not-a-number in the annotations of a parameter. -/
def hasNaN (a : ParameterAnnotations) : Bool :=
  a.lists.any fun lists => lists.any fun annotations => annotations.any Annotation.hasNaN

/-- The parameter annotations with all their zeros positive. -/
def foldZeros (a : ParameterAnnotations) : ParameterAnnotations :=
  { a with lists := a.lists.map (List.map (List.map Annotation.foldZeros)) }

theorem comparesByValue :
  ComparesByValue hasNaN foldZeros
  := by
  have hlists := Annotation.comparesByValue.list.list.option
  constructor
  · rintro ⟨lists, count⟩ ⟨lists', count'⟩
    change (lists == lists' && count == count') ↔ _
    rw [Bool.and_eq_true, hlists.beq_iff, beq_iff_eq, and_assoc, hasNaN, foldZeros, foldZeros,
      mk.injEq]
  · rintro ⟨lists, count⟩
    apply hlists.hasNaN_foldZeros

end ParameterAnnotations

namespace Method

/-- Whether there is a not-a-number in the annotations of a method. -/
def hasNaN (m : Method) : Bool := m.visible.hasNaN || m.invisible.hasNaN

/-- The method with all zeros in its annotations positive. -/
def foldZeros (m : Method) : Method :=
  { m with visible := m.visible.foldZeros, invisible := m.invisible.foldZeros }

theorem comparesByValue :
  ComparesByValue hasNaN foldZeros
  := by
  have hannotations := ParameterAnnotations.comparesByValue
  constructor
  · rintro ⟨flags, name, descriptor, owner, body, visible, invisible⟩
      ⟨flags', name', descriptor', owner', body', visible', invisible'⟩
    change (flags == flags' && name == name' && descriptor == descriptor' && owner == owner'
      && body == body' && visible == visible' && invisible == invisible') ↔ _
    simp only [Bool.and_eq_true, beq_iff_eq, hannotations.beq_iff, hasNaN, foldZeros, mk.injEq,
      Bool.or_eq_false_iff]
    tauto
  · intro m
    change (m.visible.foldZeros.hasNaN || m.invisible.foldZeros.hasNaN) = m.hasNaN
    rw [hannotations.hasNaN_foldZeros, hannotations.hasNaN_foldZeros, hasNaN]

end Method

namespace Class

/-- Whether there is a not-a-number in the annotations of a method of a class. -/
def hasNaN (c : Class) : Bool := c.methods.any Method.hasNaN

/-- The class with all zeros in the annotations of its methods positive. -/
def foldZeros (c : Class) : Class := { c with methods := c.methods.map Method.foldZeros }

theorem comparesByValue :
  ComparesByValue hasNaN foldZeros
  := by
  have hmethods := Method.comparesByValue.list
  constructor
  · rintro ⟨flags, name, innerClasses, methods⟩ ⟨flags', name', innerClasses', methods'⟩
    change (flags == flags' && name == name' && innerClasses == innerClasses'
      && methods == methods') ↔ _
    simp only [Bool.and_eq_true, beq_iff_eq, hmethods.beq_iff, hasNaN, foldZeros, mk.injEq]
    tauto
  · intro c
    apply hmethods.hasNaN_foldZeros

end Class

/-! ### The relation -/

/-- What the equality of a type decides, if it compares by value: values are equal exactly
when there is no not-a-number in the first one and they are the same with all zeros
positive.  So equality is symmetric and transitive, and a value is equal to itself exactly
when there is no not-a-number in it. -/
structure EqualByValue {α : Type} [BEq α] (hasNaN : α → Bool) (foldZeros : α → α) : Prop where
  iff : ∀ a b : α, a == b ↔ hasNaN a = false ∧ foldZeros a = foldZeros b
  symm : ∀ a b : α, a == b → b == a
  trans : ∀ a b c : α, a == b → b == c → a == c
  self_iff : ∀ a : α, a == a ↔ hasNaN a = false

theorem ComparesByValue.equalByValue
    {α : Type} [BEq α] {hasNaN : α → Bool} {foldZeros : α → α}
    (h : ComparesByValue hasNaN foldZeros) :
  EqualByValue hasNaN foldZeros
  := by
  constructor
  · apply h.beq_iff
  · intro a b hab
    obtain ⟨ha, hfold⟩ := (h.beq_iff a b).mp hab
    apply (h.beq_iff b a).mpr
    use (h.hasNaN_eq hfold).symm.trans ha, hfold.symm
  · intro a b c hab hbc
    obtain ⟨ha, hfold⟩ := (h.beq_iff a b).mp hab
    obtain ⟨-, hfold'⟩ := (h.beq_iff b c).mp hbc
    apply (h.beq_iff a c).mpr
    use ha, hfold.trans hfold'
  · intro a
    rw [h.beq_iff, and_iff_left rfl]

/-- Equality of element values, annotations, parameter annotations, methods and classes
compares by value, whatever the depth to which annotations and arrays are nested.  A number
in them is a not-a-number when the bits of its exponent are all ones and those of its
fraction are not all zeros. -/
theorem annotated_equalByValue :
  EqualByValue ElementValue.hasNaN ElementValue.foldZeros
    ∧ EqualByValue Annotation.hasNaN Annotation.foldZeros
    ∧ EqualByValue ParameterAnnotations.hasNaN ParameterAnnotations.foldZeros
    ∧ EqualByValue Method.hasNaN Method.foldZeros
    ∧ EqualByValue Class.hasNaN Class.foldZeros
    ∧ (∀ x : Binary32, (ElementValue.float x).hasNaN
        ↔ x.exponentBits = BitVec.allOnes 8 ∧ x.fractionBits ≠ 0#23)
    ∧ ∀ x : Binary64, (ElementValue.double x).hasNaN
        ↔ x.exponentBits = BitVec.allOnes 11 ∧ x.fractionBits ≠ 0#52
  := by
  use ElementValue.comparesByValue.equalByValue
  use Annotation.comparesByValue.equalByValue
  use ParameterAnnotations.comparesByValue.equalByValue
  use Method.comparesByValue.equalByValue
  use Class.comparesByValue.equalByValue
  constructor
  · intro x
    apply Binary.isNaN_iff
  · intro x
    apply Binary.isNaN_iff

end ClassFile
