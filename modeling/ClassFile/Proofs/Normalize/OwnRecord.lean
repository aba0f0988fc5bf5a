import ClassFile.Proofs.Normalize.Stages
import Mathlib.Logic.Relation

/-!
# What the kind of a class depends on

The kind of a class is decided by one of its flags and by one of its records about inner
classes.  A class with the enum flag is an enum.  Any other class is of the kind that its
first record about itself says, and of that record only two flags, the presence of a
simple name and the outer class are looked at.

So there are many ways to edit a class that leave its kind alone: what it says of other
classes, and of itself in later records, its methods, and all the other flags.  An edit is
a step, and any number of edits in a row leave the kind alone too.  The two passes change
methods only.
-/

namespace ClassFile

/-! ### Flags -/

namespace Flags

variable {κ : Type} [Flag κ] {on a b s t : Flags κ} {f : κ}

/-- Sets are equal exactly when their words are. -/
theorem eq_iff_bits :
  a = b ↔ a.bits = b.bits
  := by
  cases a
  cases b
  rw [mk.injEq]

/-- Two sets agree on a third one when every bit of the latter is in both of them or in
neither. -/
def AgreeOn (on a b : Flags κ) : Prop :=
  ∀ i, on.bits.getLsbD i → a.bits.getLsbD i = b.bits.getLsbD i

/-- Sets agree on a third one exactly when they have the same part of it. -/
theorem agreeOn_iff :
  AgreeOn on a b ↔ a ∩ on = b ∩ on
  := by
  have hbits : a ∩ on = b ∩ on ↔ a.bits &&& on.bits = b.bits &&& on.bits := eq_iff_bits
  rw [hbits]
  constructor
  · intro h
    apply BitVec.eq_of_getLsbD_eq
    intro i _
    rw [BitVec.getLsbD_and, BitVec.getLsbD_and]
    cases hi : on.bits.getLsbD i with
    | false => rw [Bool.and_false, Bool.and_false]
    | true => rw [h i hi]
  · intro h i hi
    have hbit := congrArg (fun word => word.getLsbD i) h
    simpa only [BitVec.getLsbD_and, hi, Bool.and_true] using hbit

instance (on a b : Flags κ) : Decidable (AgreeOn on a b) := decidable_of_iff _ agreeOn_iff.symm

theorem AgreeOn.mem_iff
    (h : AgreeOn {f} a b) :
  f ∈ a ↔ f ∈ b
  := by
  change a ∩ {f} = {f} ↔ b ∩ {f} = {f}
  rw [agreeOn_iff.mp h]

theorem AgreeOn.meets_iff
    (h : AgreeOn on a b) :
  a.Meets on ↔ b.Meets on
  := by
  rw [Meets, Meets, agreeOn_iff.mp h]

/-- Two sets meet when their words have a bit in common. -/
theorem meets_iff_bits :
  a.Meets s ↔ a.bits &&& s.bits ≠ 0#_
  := not_congr eq_iff_bits

/-- A set meets the union of two sets exactly when it meets one of them. -/
theorem meets_union :
  a.Meets (s ∪ t) ↔ a.Meets s ∨ a.Meets t
  := by
  have hbits : (s ∪ t).bits = s.bits ||| t.bits := rfl
  rw [meets_iff_bits, meets_iff_bits, meets_iff_bits, hbits, BitVec.and_or_distrib_left, ne_eq,
    BitVec.or_eq_zero_iff, not_and_or]

/-- A flag of a single bit is in a set exactly when the set meets it. -/
theorem meets_singleton_iff_mem
    {i : Nat} (hi : i < Flag.width κ) (hf : Flag.mask f = BitVec.twoPow (Flag.width κ) i) :
  a.Meets {f} ↔ f ∈ a
  := by
  -- The bit is within the word, so that a word with this bit only is not empty.
  have hne : BitVec.twoPow (Flag.width κ) i ≠ 0#_ := by
    intro hzero
    have hbit := BitVec.getLsbD_twoPow (w := Flag.width κ) i i
    simp [hzero, hi] at hbit
  have hmem : f ∈ a ↔ a.bits &&& Flag.mask f = Flag.mask f := eq_iff_bits
  have hbits : ({f} : Flags κ).bits = Flag.mask f := rfl
  rw [hmem, meets_iff_bits, hbits, hf, BitVec.and_twoPow]
  cases a.bits.getLsbD i with
  | false => simp [hne.symm]
  | true => simp [hne]

end Flags

/-! ### Records -/

namespace Classification

/-- The flags that rule out an enclosing instance are that of a static class and that of
an interface. -/
theorem meets_detached_iff
    {flags : Flags InnerClassFlag} :
  flags.Meets detached ↔ .accStatic ∈ flags ∨ .accInterface ∈ flags
  := by
  have hstatic : flags.Meets {.accStatic} ↔ .accStatic ∈ flags :=
    Flags.meets_singleton_iff_mem (i := 3) (by decide) (by decide)
  have hinterface : flags.Meets {.accInterface} ↔ .accInterface ∈ flags :=
    Flags.meets_singleton_iff_mem (i := 9) (by decide) (by decide)
  rw [detached, Flags.meets_union, hstatic, hinterface]

end Classification

namespace InnerClassRecord

/-- A record says that the instances of a class have an enclosing instance of `outer`: the
class is neither static nor an interface, it has a name in the source, and it is a member
of `outer`. -/
structure EnclosedBy (r : InnerClassRecord) (outer : ClassName) : Prop where
  notStatic : .accStatic ∉ r.flags
  notInterface : .accInterface ∉ r.flags
  named : r.simpleName.isSome
  outer_eq : r.outer = some outer

/-- Two records agree when they say the same but for the flags that do not matter for an
enclosing instance. -/
structure Agree (r r' : InnerClassRecord) : Prop where
  inner : r.inner = r'.inner
  outer : r.outer = r'.outer
  simpleName : r.simpleName = r'.simpleName
  flags : Flags.AgreeOn Classification.detached r.flags r'.flags

theorem Agree.refl
    (r : InnerClassRecord) :
  r.Agree r
  := by
  use rfl, rfl, rfl
  intro i _
  rfl

end InnerClassRecord

namespace Classification

variable {r r' : InnerClassRecord} {outer : ClassName}

/-- A record gives the kind with an enclosing instance exactly when it says that there is
one. -/
theorem ofRecord_eq_innerClass_iff :
  ofRecord r = innerClass outer ↔ r.EnclosedBy outer
  := by
  constructor
  · intro h
    rw [ofRecord] at h
    split at h
    · contradiction
    · next hdetached =>
      rw [meets_detached_iff, not_or] at hdetached
      split at h
      · contradiction
      · next hanonymous =>
        split at h
        · next outer' houter =>
          obtain rfl := innerClass.inj h
          use hdetached.1, hdetached.2
          simpa [InnerClassRecord.isAnonymous, Option.isSome_iff_ne_none] using hanonymous
        · contradiction
  · rintro ⟨hstatic, hinterface, hnamed, houter⟩
    have hdetached : ¬ r.flags.Meets detached := by
      rw [meets_detached_iff, not_or]
      use hstatic
    have hanonymous : r.isAnonymous = false := by
      rw [InnerClassRecord.isAnonymous, Option.isNone_eq_false_iff, hnamed]
    rw [ofRecord, if_neg hdetached, hanonymous, houter]
    rfl

/-- Records that agree give the same kind. -/
theorem ofRecord_eq_of_agree
    (h : r.Agree r') :
  ofRecord r = ofRecord r'
  := by
  rw [ofRecord, ofRecord, InnerClassRecord.isAnonymous, InnerClassRecord.isAnonymous, h.outer,
    h.simpleName]
  simp only [h.flags.meets_iff]

end Classification

/-! ### The first record of a class about itself -/

namespace Class

variable {c : Class} {r : InnerClassRecord}

/-- A record is the first one that a class holds about itself: those before it are about
other classes. -/
def FirstOwn (c : Class) (r : InnerClassRecord) : Prop :=
  ∃ before after, c.innerClasses = before ++ r :: after
    ∧ r.inner = c.name ∧ ∀ r' ∈ before, r'.inner ≠ c.name

/-- The first record of a class about itself is the one that is looked up. -/
theorem ownRecord?_eq_some_iff :
  c.ownRecord? = some r ↔ c.FirstOwn r
  := by
  rw [ownRecord?, List.find?_eq_some_iff_append, FirstOwn]
  constructor
  · rintro ⟨hown, before, after, hrecords, hbefore⟩
    use before, after, hrecords, of_decide_eq_true hown
    intro r' hr'
    simpa using hbefore r' hr'
  · rintro ⟨before, after, hrecords, hown, hbefore⟩
    use decide_eq_true hown, before, after, hrecords
    intro r' hr'
    simpa using hbefore r' hr'

end Class

namespace Classification

variable {c c' : Class}

/-- A record never makes a class an enum. -/
theorem ofRecord_ne_enumClass
    (r : InnerClassRecord) :
  ofRecord r ≠ enumClass
  := by
  rw [ofRecord]
  split
  · simp
  · split
    · simp
    · split <;> simp

/-- A class is an enum exactly when it has the flag of one. -/
theorem of_eq_enumClass_iff :
  of c = enumClass ↔ .accEnum ∈ c.flags
  := by
  rw [of]
  split
  · next h => simp [h]
  · next h =>
    cases c.ownRecord? with
    | none => simp [h]
    | some r => simp [h, ofRecord_ne_enumClass]

/-- A class that is no enum is an inner class with an enclosing instance exactly when its
first record about itself says so. -/
theorem of_eq_innerClass_iff
    (h : .accEnum ∉ c.flags) {outer : ClassName} :
  of c = innerClass outer ↔ ∃ r, c.FirstOwn r ∧ r.EnclosedBy outer
  := by
  simp only [← Class.ownRecord?_eq_some_iff, ← ofRecord_eq_innerClass_iff]
  rw [of, if_neg h]
  cases c.ownRecord? with
  | none => simp
  | some r => simp

/-- The kinds that have synthetic parameters are enums and inner classes with an enclosing
instance. -/
theorem syntheticParameters_eq_some_iff
    {kind : Classification} {synthetic : List FieldType} :
  kind.syntheticParameters = some synthetic
    ↔ kind = enumClass ∧ synthetic = [.string, .base .int]
      ∨ ∃ outer, kind = innerClass outer ∧ synthetic = [.object outer]
  := by
  cases kind <;> simp [syntheticParameters, eq_comm]

/-- A class that is no enum has synthetic parameters exactly when its first record about
itself says that there is an enclosing instance, and then that is the only one. -/
theorem expectedSyntheticParameters_eq_some_iff
    (h : .accEnum ∉ c.flags) {synthetic : List FieldType} :
  c.expectedSyntheticParameters = some synthetic
    ↔ ∃ r outer, c.FirstOwn r ∧ r.EnclosedBy outer ∧ synthetic = [.object outer]
  := by
  rw [Class.expectedSyntheticParameters, syntheticParameters_eq_some_iff, of_eq_enumClass_iff]
  simp only [h, false_and, false_or, of_eq_innerClass_iff h]
  constructor
  · rintro ⟨outer, ⟨r, hfirst, henclosed⟩, hsynthetic⟩
    use r, outer
  · rintro ⟨r, outer, hfirst, henclosed, hsynthetic⟩
    use outer, ⟨r, hfirst, henclosed⟩

/-- Classes that agree on the enum flag and in their first records about themselves are of
the same kind. -/
theorem of_eq_of_agree
    (hflags : Flags.AgreeOn {.accEnum} c.flags c'.flags)
    (hrecord : Option.Rel InnerClassRecord.Agree c.ownRecord? c'.ownRecord?) :
  of c = of c'
  := by
  have hof : ∀ c : Class,
      of c = if .accEnum ∈ c.flags then enumClass else c.ownRecord?.elim notInner ofRecord := by
    intro c
    rw [of]
    cases c.ownRecord? <;> rfl
  rw [hof, hof]
  simp only [hflags.mem_iff]
  generalize c.ownRecord? = record?, c'.ownRecord? = record?' at hrecord
  cases hrecord with
  | some hagree => rw [Option.elim_some, Option.elim_some, ofRecord_eq_of_agree hagree]
  | none => rfl

end Classification

/-! ### Edits -/

/-- The edits of a class that leave its kind alone. -/
inductive Class.Edit (c : Class) : Class → Prop
  /-- Records of other classes are inserted, removed or moved: those of the class itself
  are the same in the same order. -/
  | others (records : List InnerClassRecord)
      (h : (records.filter fun r => r.inner = c.name)
        = c.innerClasses.filter fun r => r.inner = c.name) :
      Edit c { c with innerClasses := records }
  /-- Among the records that follow a record of the class itself some are inserted, be they
  of the class itself or not. -/
  | furtherOwn (before inserted after : List InnerClassRecord)
      (h : c.innerClasses = before ++ after) (hown : ∃ r ∈ before, r.inner = c.name) :
      Edit c { c with innerClasses := before ++ inserted ++ after }
  /-- Flags of records are changed, except those that rule out an enclosing instance. -/
  | recordFlags (records : List InnerClassRecord)
      (h : List.Forall₂ InnerClassRecord.Agree c.innerClasses records) :
      Edit c { c with innerClasses := records }
  /-- Flags of the class are changed, except that of an enum. -/
  | flags (flags : Flags ClassFlag) (h : Flags.AgreeOn {.accEnum} c.flags flags) :
      Edit c { c with flags }
  /-- The methods are changed. -/
  | methods (methods : List Method) :
      Edit c { c with methods }

namespace Class.Edit

variable {c c' : Class}

/-- An edit leaves the enum flag of a class alone. -/
theorem agreeOn_flags
    (h : Edit c c') :
  Flags.AgreeOn {.accEnum} c.flags c'.flags
  := by
  intro i hi
  cases h with
  | flags flags h => apply h i hi
  | others => rfl
  | furtherOwn => rfl
  | recordFlags => rfl
  | methods => rfl

/-- Records that agree pairwise are looked up alike. -/
theorem rel_find?
    {name : ClassName} {records records' : List InnerClassRecord}
    (h : List.Forall₂ InnerClassRecord.Agree records records') :
  Option.Rel InnerClassRecord.Agree (records.find? fun r => r.inner = name)
    (records'.find? fun r => r.inner = name)
  := by
  induction h with
  | nil => apply Option.Rel.none
  | cons hagree _ ih =>
    rw [List.find?_cons, List.find?_cons, hagree.inner]
    split
    · apply Option.Rel.some hagree
    · apply ih

/-- An edit leaves the first record of a class about itself alone, or changes only flags
of it that do not matter. -/
theorem rel_ownRecord?
    (h : Edit c c') :
  Option.Rel InnerClassRecord.Agree c.ownRecord? c'.ownRecord?
  := by
  have hself : ∀ record? : Option InnerClassRecord,
      Option.Rel InnerClassRecord.Agree record? record? := by
    intro record?
    cases record? with
    | none => apply Option.Rel.none
    | some r => apply Option.Rel.some (InnerClassRecord.Agree.refl r)
  cases h with
  | others records h =>
    -- The first record about the class is the first one of those about the class.
    rw [ownRecord?, ownRecord?, ← List.head?_filter, ← List.head?_filter, h]
    apply hself
  | furtherOwn before inserted after h hown =>
    have hfound : (before.find? fun r => r.inner = c.name).isSome := by
      simpa using hown
    rw [ownRecord?, ownRecord?, h, List.append_assoc, List.find?_append, List.find?_append,
      Option.or_of_isSome hfound, Option.or_of_isSome hfound]
    apply hself
  | recordFlags records h => apply rel_find? h
  | flags => apply hself
  | methods => apply hself

/-- An edit does not change the kind of a class. -/
theorem of_eq
    (h : Edit c c') :
  Classification.of c = Classification.of c'
  := Classification.of_eq_of_agree h.agreeOn_flags h.rel_ownRecord?

/-- Any number of edits do not change the kind of a class. -/
theorem of_eq_of_edits
    (h : Relation.ReflTransGen Edit c c') :
  Classification.of c = Classification.of c'
  := by
  induction h with
  | refl => rfl
  | tail _ hedit ih => rw [ih, hedit.of_eq]

end Class.Edit

/-- The kind of a class is decided by its enum flag and its first record about itself.  A
class with the flag is an enum, whatever its records.  Another one has synthetic
parameters exactly when its first record about itself says that there is an enclosing
instance, which is then the only one.  The kind stays the same after any number of edits
to other parts of the class, and after a run of either pass. -/
theorem Classification.of_determined
    (c : Class) :
  (.accEnum ∈ c.flags → of c = enumClass)
    ∧ (.accEnum ∉ c.flags → ∀ synthetic, c.expectedSyntheticParameters = some synthetic
        ↔ ∃ r outer, c.FirstOwn r ∧ r.EnclosedBy outer ∧ synthetic = [.object outer])
    ∧ (∀ c', Relation.ReflTransGen Class.Edit c c' → of c' = of c)
    ∧ (∀ pass : AnnotationAligner, of (pass.run c).value = of c)
    ∧ ∀ pass : LocalVariableStripper, of (pass.run c).value = of c
  := by
  constructor
  · apply of_eq_enumClass_iff.mpr
  constructor
  · intro h synthetic
    apply expectedSyntheticParameters_eq_some_iff h
  constructor
  · intro c' h
    rw [Class.Edit.of_eq_of_edits h]
  constructor
  · intro pass
    rw [pass.value_run]
    apply (Class.Edit.methods _).of_eq.symm
  · intro pass
    rw [pass.value_run]
    apply (Class.Edit.methods _).of_eq.symm

/-- An inner class with a record about another class, and then two about itself. -/
def Class.spoke : Class where
  flags := {.accSuper}
  name := ⟨"Wheel$Spoke"⟩
  innerClasses :=
    [⟨⟨"Wheel$Hub"⟩, some ⟨"Wheel"⟩, some "Hub", {.accStatic}⟩,
     ⟨⟨"Wheel$Spoke"⟩, some ⟨"Wheel"⟩, some "Spoke", {.accPrivate}⟩,
     ⟨⟨"Wheel$Spoke"⟩, none, none, {.accInterface}⟩]
  methods := []

/-- An enum, and an inner class in which only the first record about itself counts.  After
three edits the latter has lost the record about another class, and its own one and itself
have other flags. -/
theorem Classification.of_determined_spoke :
  let c' : Class :=
    { Class.spoke with
      flags := {.accFinal}
      innerClasses :=
        [⟨⟨"Wheel$Spoke"⟩, some ⟨"Wheel"⟩, some "Spoke", {.accFinal}⟩,
         ⟨⟨"Wheel$Spoke"⟩, none, none, {.accInterface}⟩] }
  .accEnum ∈ Class.planet.flags ∧ of .planet = enumClass
    ∧ .accEnum ∉ Class.spoke.flags
    ∧ Class.spoke.expectedSyntheticParameters = some [.object ⟨"Wheel"⟩]
    ∧ Relation.ReflTransGen Class.Edit .spoke c' ∧ of c' = of .spoke
  := by
  intro c'
  have henum : .accEnum ∈ Class.planet.flags := by decide
  have hspoke : .accEnum ∉ Class.spoke.flags := by decide
  obtain ⟨hplanet, -⟩ := of_determined .planet
  obtain ⟨-, hexpected, hedits, -⟩ := of_determined .spoke
  have hfirst : Class.spoke.FirstOwn
      ⟨⟨"Wheel$Spoke"⟩, some ⟨"Wheel"⟩, some "Spoke", {.accPrivate}⟩ := by
    rw [← Class.ownRecord?_eq_some_iff]
    decide
  have hedit : Relation.ReflTransGen Class.Edit .spoke c' := by
    let later : InnerClassRecord := ⟨⟨"Wheel$Spoke"⟩, none, none, {.accInterface}⟩
    apply Relation.ReflTransGen.head
    · apply Class.Edit.others
        [⟨⟨"Wheel$Spoke"⟩, some ⟨"Wheel"⟩, some "Spoke", {.accPrivate}⟩, later]
      decide
    apply Relation.ReflTransGen.head
    · apply Class.Edit.recordFlags
        [⟨⟨"Wheel$Spoke"⟩, some ⟨"Wheel"⟩, some "Spoke", {.accFinal}⟩, later]
      apply List.Forall₂.cons
      · use rfl, rfl, rfl
        decide
      · apply List.Forall₂.cons (InnerClassRecord.Agree.refl later) List.Forall₂.nil
    apply Relation.ReflTransGen.single
    apply Class.Edit.flags
    decide
  use henum, hplanet henum, hspoke
  constructor
  · apply (hexpected hspoke _).mpr
    exact ⟨_, _, hfirst, ⟨by decide, by decide, rfl, rfl⟩, rfl⟩
  · use hedit
    apply hedits c' hedit

end ClassFile
