import ClassFile.Descriptor.Order
import Mathlib.Logic.Function.Defs
import Mathlib.Tactic.Use

/-!
# The order of descriptors is total

The order of base types is that of their positions in the list of base types, and the
order of class names is that of their texts.  An order that is given by a key which tells
the members apart is as good as the order of the keys.

From these two the order of field types is put together by the kind of the type and, for
arrays, by recursion; the order of method descriptors is that of a pair, the first part
of which is compared as in a dictionary.  For each of them only equal members compare as
equal, the order of a pair the other way round is the reverse, and the order is
transitive.  Hence there is only one ascending list of the members of a list, and sorting
finds it from every arrangement of them.
-/

namespace ClassFile

/-! ### Orders by a key -/

/-- An order by a key tells members apart if the key and the order of the keys do. -/
theorem lawfulEqCmp_compareOn
    {α β : Type} [Ord β] [Std.LawfulEqOrd β] (key : α → β) (hkey : Function.Injective key) :
  Std.LawfulEqCmp (compareOn key)
  := by
  refine { compare_self := ?_, eq_of_compare := ?_ }
  · intro a
    apply Std.ReflOrd.compare_self (a := key a)
  · intro a b h
    apply hkey (Std.LawfulEqOrd.eq_of_compare h)

/-- Different base types have different positions. -/
theorem BaseType.ctorIdx_injective :
  Function.Injective BaseType.ctorIdx
  := by
  intro a b h
  rw [← BaseType.ofNat_ctorIdx a, h, BaseType.ofNat_ctorIdx]

/-- Different class names have different texts. -/
theorem ClassName.text_injective :
  Function.Injective text
  := by
  intro a b h
  apply congrArg mk h

instance : Std.TransOrd BaseType :=
  inferInstanceAs (Std.TransCmp (compareOn BaseType.ctorIdx))

instance : Std.LawfulEqOrd BaseType :=
  lawfulEqCmp_compareOn BaseType.ctorIdx BaseType.ctorIdx_injective

instance : Std.TransOrd ClassName :=
  inferInstanceAs (Std.TransCmp (compareOn ClassName.text))

instance : Std.LawfulEqOrd ClassName :=
  lawfulEqCmp_compareOn ClassName.text ClassName.text_injective

/-! ### Field types -/

namespace FieldType

/-- The order of two types the other way round is the reverse. -/
theorem order_eq_swap
    (t u : FieldType) :
  order t u = (order u t).swap
  := by
  induction t generalizing u with
  | base a =>
    cases u with
    | base b => apply Std.OrientedOrd.eq_swap
    | object name => rfl
    | array element => rfl
  | object name =>
    cases u with
    | base b => rfl
    | object name' => apply Std.OrientedOrd.eq_swap
    | array element => rfl
  | array element ih =>
    cases u with
    | base b => rfl
    | object name => rfl
    | array element' => apply ih

/-- The order of types is transitive. -/
theorem isLE_order_trans
    {t u w : FieldType} (htu : (order t u).isLE) (huw : (order u w).isLE) :
  (order t w).isLE
  := by
  -- Types of three kinds are in order if the kinds are, and then the kind in the middle
  -- does not matter.  Within a kind the order is that of the parts.
  induction t generalizing u w with
  | base a =>
    cases w with
    | base c =>
      cases u with
      | base b => apply Std.TransOrd.isLE_trans (α := BaseType) htu huw
      | object name => contradiction
      | array element => contradiction
    | object name => rfl
    | array element => rfl
  | object name =>
    cases u with
    | base b => contradiction
    | object name' =>
      cases w with
      | base c => contradiction
      | object name'' => apply Std.TransOrd.isLE_trans (α := ClassName) htu huw
      | array element => rfl
    | array element =>
      cases w with
      | base c => contradiction
      | object name'' => contradiction
      | array element' => rfl
  | array element ih =>
    cases u with
    | base b => contradiction
    | object name => contradiction
    | array element' =>
      cases w with
      | base c => contradiction
      | object name => contradiction
      | array element'' => apply ih htu huw

/-- A type compares as equal with itself. -/
theorem order_self
    (t : FieldType) :
  order t t = .eq
  := by
  induction t with
  | base a => apply Std.ReflOrd.compare_self
  | object name => apply Std.ReflOrd.compare_self
  | array element ih => apply ih

/-- Types that compare as equal are the same. -/
theorem eq_of_order_eq
    {t u : FieldType} (h : order t u = .eq) :
  t = u
  := by
  induction t generalizing u with
  | base a =>
    cases u with
    | base b => rw [Std.LawfulEqOrd.eq_of_compare (α := BaseType) h]
    | object name => contradiction
    | array element => contradiction
  | object name =>
    cases u with
    | base b => contradiction
    | object name' => rw [Std.LawfulEqOrd.eq_of_compare (α := ClassName) h]
    | array element => contradiction
  | array element ih =>
    cases u with
    | base b => contradiction
    | object name => contradiction
    | array element' => rw [ih h]

instance : Std.TransOrd FieldType where
  eq_swap := order_eq_swap _ _
  isLE_trans := isLE_order_trans

instance : Std.LawfulEqOrd FieldType where
  compare_self := order_self _
  eq_of_compare := eq_of_order_eq

end FieldType

/-! ### Returns and method descriptors -/

namespace ReturnDescriptor

instance : Std.TransOrd ReturnDescriptor where
  eq_swap := by
    intro r r'
    cases r with
    | value t =>
      cases r' with
      | value u => apply Std.OrientedOrd.eq_swap (α := FieldType)
      | void => rfl
    | void => cases r' <;> rfl
  isLE_trans := by
    intro r r' r'' h h'
    cases r with
    | value t =>
      cases r'' with
      | value w =>
        cases r' with
        | value u => apply Std.TransOrd.isLE_trans (α := FieldType) h h'
        | void => contradiction
      | void => rfl
    | void =>
      cases r' with
      | value u => contradiction
      | void => apply h'

instance : Std.LawfulEqOrd ReturnDescriptor where
  compare_self := by
    intro r
    cases r with
    | value t => apply Std.ReflOrd.compare_self (α := FieldType)
    | void => rfl
  eq_of_compare := by
    intro r r' h
    cases r with
    | value t =>
      cases r' with
      | value u => rw [Std.LawfulEqOrd.eq_of_compare (α := FieldType) h]
      | void => contradiction
    | void =>
      cases r' with
      | value u => contradiction
      | void => rfl

end ReturnDescriptor

namespace MethodDescriptor

instance : Std.TransOrd MethodDescriptor :=
  inferInstanceAs (Std.TransCmp (compareLex (compareOn parameters) (compareOn result)))

instance : Std.LawfulEqOrd MethodDescriptor where
  compare_self := by
    intro d
    apply Ordering.then_eq_eq.mpr
    use Std.ReflOrd.compare_self, Std.ReflOrd.compare_self
  eq_of_compare := by
    intro d d' h
    obtain ⟨hparameters, hresult⟩ := Ordering.then_eq_eq.mp h
    cases d
    cases d'
    congr
    · apply Std.LawfulEqOrd.eq_of_compare hparameters
    · apply Std.LawfulEqOrd.eq_of_compare hresult

end MethodDescriptor

/-! ### Sorting -/

section

variable {α : Type} [Ord α]

/-- A sorted list has the members of the list that it comes from. -/
theorem ascending_perm
    (l : List α) :
  (ascending l).Perm l
  := List.mergeSort_perm l _

variable [Std.TransOrd α]

/-- A sorted list is in order. -/
theorem pairwise_ascending
    (l : List α) :
  (ascending l).Pairwise fun a b => (compare a b).isLE
  := by
  apply List.pairwise_mergeSort
  · intro a b c hab hbc
    apply Std.TransOrd.isLE_trans hab hbc
  · intro a b
    rw [Std.OrientedOrd.eq_swap (a := b)]
    cases compare a b <;> rfl

/-- There is only one list in order with given members, if the order tells members
apart. -/
theorem ascending_eq_iff_perm
    [Std.LawfulEqOrd α] {l l' : List α} :
  ascending l = ascending l' ↔ l.Perm l'
  := by
  constructor
  · intro h
    apply (ascending_perm l).symm.trans
    rw [h]
    apply ascending_perm
  · intro h
    apply List.Perm.eq_of_pairwise _ (pairwise_ascending l) (pairwise_ascending l')
    · apply (ascending_perm l).trans (h.trans (ascending_perm l').symm)
    · intro a b _ _ hab hba
      apply Std.LawfulEqOrd.eq_of_compare
      apply Std.OrientedCmp.isLE_antisymm hab hba

end

/-- The order of a type is total: only equal members compare as equal, the order of two
members the other way round is the reverse, and the order is transitive.  Then sorting a
list puts its members in order, and lists are sorted to the same list exactly when they
have the same members. -/
structure TotallyOrdered (α : Type) [Ord α] : Prop where
  compare_eq : ∀ a b : α, compare a b = .eq ↔ a = b
  compare_swap : ∀ a b : α, compare b a = (compare a b).swap
  isLE_trans : ∀ a b c : α, (compare a b).isLE → (compare b c).isLE → (compare a c).isLE
  sorted : ∀ l : List α, (ascending l).Perm l
    ∧ (ascending l).Pairwise fun a b => (compare a b).isLE
  sorted_eq : ∀ l l' : List α, ascending l = ascending l' ↔ l.Perm l'

/-- A lawful order is total. -/
theorem totallyOrdered_of_lawful
    (α : Type) [Ord α] [Std.TransOrd α] [Std.LawfulEqOrd α] :
  TotallyOrdered α
  := by
  constructor
  · intro a b
    apply Std.LawfulEqOrd.compare_eq_iff_eq
  · intro a b
    apply Std.OrientedOrd.eq_swap
  · intro a b c
    apply Std.TransOrd.isLE_trans
  · intro l
    use ascending_perm l
    apply pairwise_ascending
  · intro l l'
    apply ascending_eq_iff_perm

/-- The orders of field types, of returns and of method descriptors are total, whatever
the depth of the arrays, the names of the classes and the number of the parameters. -/
theorem descriptors_totallyOrdered :
  TotallyOrdered FieldType ∧ TotallyOrdered ReturnDescriptor ∧ TotallyOrdered MethodDescriptor
  := by
  constructor
  · apply totallyOrdered_of_lawful
  constructor
  · apply totallyOrdered_of_lawful
  · apply totallyOrdered_of_lawful

end ClassFile
