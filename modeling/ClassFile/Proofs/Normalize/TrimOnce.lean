import ClassFile.Proofs.Normalize.Stages

/-!
# Entries are removed at most once

A constructor may be aligned several times, each time with other synthetic parameters,
since stages in between may change what kind of class it belongs to.  Only the first
attempt with synthetic parameters that the constructor begins with removes entries: after
it the list is shorter than the parameters, and it stays so.

`ParameterAnnotations.settled` says what becomes of the annotations of a visibility after
a list of attempts.  It satisfies the recursion of the attempts one by one
(`ParameterAnnotations.settled_cons`), so it describes every run.
-/

namespace ClassFile

/-! ### Attempts on the annotations of one visibility -/

namespace ParameterAnnotations

/-- The attempt that removes entries from a list with an entry for each of the parameters:
the first one that is not empty and that the parameters begin with. -/
def effective? (parameters : List FieldType) (attempts : List (List FieldType)) :
    Option (List FieldType) :=
  attempts.find? fun synthetic => synthetic ≠ [] ∧ synthetic <+: parameters

/-- What is left of a list after some attempts. -/
def remaining (parameters : List FieldType) (attempts : List (List FieldType))
    (lists : List (List Annotation)) : List (List Annotation) :=
  if lists.length = parameters.length then
    match effective? parameters attempts with
    | some synthetic => lists.drop synthetic.length
    | none => lists
  else
    lists

/-- The annotations of a visibility after some attempts.  The count is the length of what
is left of the list, if that fits and the parameters begin with some attempt. -/
def settled (parameters : List FieldType) (attempts : List (List FieldType))
    (a : ParameterAnnotations) : ParameterAnnotations :=
  match a.lists with
  | some lists =>
    let left := remaining parameters attempts lists
    { lists := some left
      count :=
        if (∃ synthetic ∈ attempts, synthetic <+: parameters) ∧ left.length ≤ 255 then
          some (UInt8.ofNat left.length)
        else
          a.count }
  | none => a

/-- The annotations of a visibility after one attempt. -/
def attempted (parameters : List FieldType) (a : ParameterAnnotations)
    (synthetic : List FieldType) : ParameterAnnotations :=
  if synthetic <+: parameters then
    a.aligned parameters.length synthetic.length
  else
    a

variable {parameters : List FieldType}

/-- Once entries were removed, a list has no longer an entry for each parameter. -/
theorem length_trim_ne
    {synthetic : List FieldType} (hne : synthetic ≠ []) (h : synthetic <+: parameters)
    (lists : List (List Annotation)) :
  (trim parameters.length synthetic.length lists).length ≠ parameters.length
  := by
  have hpos : 0 < synthetic.length := List.length_pos_iff.mpr hne
  have hle : synthetic.length ≤ parameters.length := h.length_le
  rw [length_trim]
  split <;> omega

theorem effective?_cons_of_not_prefix
    {synthetic : List FieldType} (h : ¬ synthetic <+: parameters)
    (attempts : List (List FieldType)) :
  effective? parameters (synthetic :: attempts) = effective? parameters attempts
  := by
  simp [effective?, h]

theorem effective?_cons_nil
    (attempts : List (List FieldType)) :
  effective? parameters ([] :: attempts) = effective? parameters attempts
  := by
  simp [effective?]

theorem effective?_cons_of_prefix
    {synthetic : List FieldType} (hne : synthetic ≠ []) (h : synthetic <+: parameters)
    (attempts : List (List FieldType)) :
  effective? parameters (synthetic :: attempts) = some synthetic
  := by
  simp [effective?, hne, h]

/-- An attempt that does not fit leaves the list to the attempts after it. -/
theorem remaining_cons_of_not_prefix
    {synthetic : List FieldType} (h : ¬ synthetic <+: parameters)
    (attempts : List (List FieldType)) (lists : List (List Annotation)) :
  remaining parameters (synthetic :: attempts) lists = remaining parameters attempts lists
  := by
  rw [remaining, remaining, effective?_cons_of_not_prefix h]

/-- An attempt that fits trims the list, and the attempts after it find the trimmed
list. -/
theorem remaining_cons_of_prefix
    {synthetic : List FieldType} (h : synthetic <+: parameters)
    (attempts : List (List FieldType)) (lists : List (List Annotation)) :
  remaining parameters (synthetic :: attempts) lists
    = remaining parameters attempts (trim parameters.length synthetic.length lists)
  := by
  by_cases hne : synthetic = []
  · subst hne
    have htrim : trim parameters.length 0 lists = lists := by
      rw [trim, List.drop_zero, ite_self]
    rw [List.length_nil, htrim, remaining, remaining, effective?_cons_nil]
  · rw [remaining, effective?_cons_of_prefix hne h, remaining,
      if_neg (length_trim_ne hne h lists), trim]

/-- Attempts that do not fit leave a list as it is. -/
theorem remaining_of_forall_not_prefix
    {attempts : List (List FieldType)}
    (h : ¬ ∃ synthetic ∈ attempts, synthetic <+: parameters)
    (lists : List (List Annotation)) :
  remaining parameters attempts lists = lists
  := by
  have hnone : effective? parameters attempts = none := by
    apply List.find?_eq_none.mpr
    intro synthetic hmem hfits
    apply h
    use synthetic, hmem
    apply (of_decide_eq_true hfits).2
  rw [remaining, hnone, ite_self]

/-- Attempts never make a list longer. -/
theorem length_remaining_le
    (parameters : List FieldType) (attempts : List (List FieldType))
    (lists : List (List Annotation)) :
  (remaining parameters attempts lists).length ≤ lists.length
  := by
  rw [remaining]
  split
  · split
    · rw [List.length_drop]
      omega
    · apply Nat.le_refl
  · apply Nat.le_refl

theorem settled_of_none
    {a : ParameterAnnotations} (h : a.lists = none) (attempts : List (List FieldType)) :
  a.settled parameters attempts = a
  := by
  rw [settled, h]

theorem settled_of_some
    {a : ParameterAnnotations} {lists : List (List Annotation)} (h : a.lists = some lists)
    (attempts : List (List FieldType)) :
  a.settled parameters attempts
    = { lists := some (remaining parameters attempts lists)
        count :=
          if (∃ synthetic ∈ attempts, synthetic <+: parameters)
              ∧ (remaining parameters attempts lists).length ≤ 255 then
            some (UInt8.ofNat (remaining parameters attempts lists).length)
          else
            a.count }
  := by
  rw [settled, h]

/-- Without an attempt nothing happens. -/
@[simp]
theorem settled_nil
    (parameters : List FieldType) (a : ParameterAnnotations) :
  a.settled parameters [] = a
  := by
  cases h : a.lists with
  | none => apply settled_of_none h
  | some lists =>
    have hnone : ¬ ∃ synthetic ∈ ([] : List (List FieldType)), synthetic <+: parameters := by
      simp
    rw [settled_of_some h, remaining_of_forall_not_prefix hnone, if_neg (by simp), ← h]

/-- The count that an attempt has set does not show after further attempts: the list that
these leave is no longer, so where it does not fit the count, the earlier one did not
either. -/
theorem count_remaining
    (attempts : List (List FieldType)) (lists : List (List Annotation))
    (a : ParameterAnnotations) :
  (if (∃ synthetic ∈ attempts, synthetic <+: parameters)
        ∧ (remaining parameters attempts lists).length ≤ 255 then
      some (UInt8.ofNat (remaining parameters attempts lists).length)
    else
      (a.withLists lists).count)
    = (if (remaining parameters attempts lists).length ≤ 255 then
        some (UInt8.ofNat (remaining parameters attempts lists).length)
      else
        a.count)
  := by
  by_cases hfits : ∃ synthetic ∈ attempts, synthetic <+: parameters
  · by_cases hsmall : (remaining parameters attempts lists).length ≤ 255
    · rw [if_pos ⟨hfits, hsmall⟩, if_pos hsmall]
    · have hlarge : ¬ lists.length ≤ 255 := by
        have := length_remaining_le parameters attempts lists
        omega
      rw [if_neg (fun h => hsmall h.2), if_neg hsmall, withLists, count?, if_neg hlarge]
      rfl
  · rw [if_neg (fun h => hfits h.1), remaining_of_forall_not_prefix hfits, withLists, count?]
    split <;> rfl

/-- The first of several attempts is made, and then the others. -/
theorem settled_cons
    (a : ParameterAnnotations) (synthetic : List FieldType)
    (attempts : List (List FieldType)) :
  a.settled parameters (synthetic :: attempts)
    = (a.attempted parameters synthetic).settled parameters attempts
  := by
  by_cases h : synthetic <+: parameters
  · rw [attempted, if_pos h]
    cases hlists : a.lists with
    | none => rw [aligned_of_none hlists, settled_of_none hlists, settled_of_none hlists]
    | some lists =>
      rw [aligned_of_some hlists, settled_of_some hlists, settled_of_some rfl,
        count_remaining, remaining_cons_of_prefix h]
      congr 2
      simp [h]
  · rw [attempted, if_neg h]
    cases hlists : a.lists with
    | none => rw [settled_of_none hlists, settled_of_none hlists]
    | some lists =>
      rw [settled_of_some hlists, settled_of_some hlists, remaining_cons_of_not_prefix h]
      congr 2
      simp [h]

/-- Attempts made one after the other settle the annotations. -/
theorem foldl_attempted
    (attempts : List (List FieldType)) (a : ParameterAnnotations) :
  attempts.foldl (attempted parameters) a = a.settled parameters attempts
  := by
  induction attempts generalizing a with
  | nil => rw [List.foldl_nil, settled_nil]
  | cons synthetic attempts ih => rw [List.foldl_cons, ih, settled_cons]

/-- Settling in two parts is settling by all attempts. -/
theorem settled_append
    (attempts attempts' : List (List FieldType)) (a : ParameterAnnotations) :
  (a.settled parameters attempts).settled parameters attempts'
    = a.settled parameters (attempts ++ attempts')
  := by
  rw [← foldl_attempted, ← foldl_attempted, ← foldl_attempted, List.foldl_append]

end ParameterAnnotations

/-! ### Attempts on a constructor -/

namespace Method

theorem annotations_aligned_eq_attempted
    (synthetic : List FieldType) (m : Method) (v : Visibility) :
  (m.aligned synthetic).annotations v = (m.annotations v).attempted m.parameters synthetic
  := by
  rw [annotations_aligned]
  rfl

/-- After some alignments of a constructor the annotations of each visibility are
settled. -/
theorem annotations_foldl_aligned
    (attempts : List (List FieldType)) (m : Method) (v : Visibility) :
  (attempts.foldl (fun m synthetic => m.aligned synthetic) m).annotations v
    = (m.annotations v).settled m.parameters attempts
  := by
  induction attempts generalizing m with
  | nil => rw [List.foldl_nil, ParameterAnnotations.settled_nil]
  | cons synthetic attempts ih =>
    have hparameters : (m.aligned synthetic).parameters = m.parameters := by
      rw [parameters, descriptor_aligned, parameters]
    rw [List.foldl_cons, ih, annotations_aligned_eq_attempted, hparameters,
      ParameterAnnotations.settled_cons]

end Method

namespace AnnotationAligner

/-- Aligns a constructor several times, each time by another aligner and with other
synthetic parameters. -/
def alignInTurn (calls : List (AnnotationAligner × List FieldType)) (m : Method) :
    Report Method :=
  calls.foldlM (fun m (pass, synthetic) => alignConstructor pass synthetic m) m

end AnnotationAligner

namespace Method

/-- The relation of a method of a class to the method that it has become after its class
was aligned with several synthetic parameters: the annotations of a constructor are
settled, those of any other method are as they were. -/
structure SettledBy (attempts : List (List FieldType)) (m m' : Method) : Prop where
  name : m'.name = m.name
  descriptor : m'.descriptor = m.descriptor
  annotations : ∀ v, m'.annotations v
    = if m.IsConstructor then (m.annotations v).settled m.parameters attempts
      else m.annotations v

namespace SettledBy

/-- A method with the same name, descriptor and annotations is settled by no attempt. -/
theorem of_nil
    {m m' : Method} (hname : m'.name = m.name) (hdescriptor : m'.descriptor = m.descriptor)
    (hannotations : ∀ v, m'.annotations v = m.annotations v) :
  SettledBy [] m m'
  := by
  constructor
  · apply hname
  · apply hdescriptor
  · intro v
    rw [hannotations, ParameterAnnotations.settled_nil, ite_self]

/-- A method is settled by no attempt as it is. -/
theorem refl
    (m : Method) :
  SettledBy [] m m
  := by
  apply of_nil rfl rfl
  intro v
  rfl

/-- What is settled twice is settled by all attempts. -/
theorem append
    {attempts attempts' : List (List FieldType)} {m m' m'' : Method}
    (h : SettledBy attempts m m') (h' : SettledBy attempts' m' m'') :
  SettledBy (attempts ++ attempts') m m''
  := by
  constructor
  · apply h'.name.trans h.name
  · apply h'.descriptor.trans h.descriptor
  · intro v
    have hparameters : m'.parameters = m.parameters :=
      congrArg MethodDescriptor.parameters h.descriptor
    rw [h'.annotations, h.annotations, hparameters]
    by_cases hm : m.IsConstructor
    · have hm' : m'.IsConstructor := h.name.trans hm
      rw [if_pos hm', if_pos hm, if_pos hm]
      apply ParameterAnnotations.settled_append
    · have hm' : ¬ m'.IsConstructor := fun hm' => hm (h.name.symm.trans hm')
      rw [if_neg hm', if_neg hm, if_neg hm]

end SettledBy

end Method

/-! ### Attempts on a class -/

namespace Stage

/-- The synthetic parameters with which a stage aligns the constructors of a class. -/
def attempts (stage : Stage) (c : Class) : List (List FieldType) :=
  if stage.isAligner then c.expectedSyntheticParameters.toList else []

/-- The synthetic parameters with which stages align the constructors of a class, each
stage those of the class that it finds. -/
def attemptsInTurn : List Stage → Class → List (List FieldType)
  | [], _ => []
  | stage :: stages, c => stage.attempts c ++ attemptsInTurn stages (stage.run c).value

/-- A method is settled by what its class attempts. -/
theorem settledBy_alignedMethod
    (c : Class) (m : Method) :
  m.SettledBy c.expectedSyntheticParameters.toList (c.alignedMethod m)
  := by
  cases h : c.expectedSyntheticParameters with
  | none =>
    rw [Class.alignedMethod_of_none h]
    apply Method.SettledBy.refl
  | some synthetic =>
    rw [Class.alignedMethod_of_some h, Option.toList_some]
    by_cases hm : m.IsConstructor
    · rw [if_pos hm]
      constructor
      · apply Method.name_aligned
      · apply Method.descriptor_aligned
      · intro v
        rw [if_pos hm, ParameterAnnotations.settled_cons, ParameterAnnotations.settled_nil,
          Method.annotations_aligned_eq_attempted]
    · rw [if_neg hm]
      constructor
      · rfl
      · rfl
      · intro v
        rw [if_neg hm]

/-- A stage settles each method by what it attempts. -/
theorem forall₂_settledBy_run
    {stage : Stage} (h : stage.IsPass ∨ stage.Relabels) (c : Class) :
  List.Forall₂ (Method.SettledBy (stage.attempts c)) c.methods (stage.run c).value.methods
  := by
  obtain ⟨pass, rfl, hvalue⟩ | ⟨pass, rfl, hvalue⟩ | ⟨name, run, name?, flags?, rfl, hvalue⟩ :=
    value_run_cases h c
  · rw [hvalue]
    apply List.forall₂_map_right_iff.mpr
    apply List.forall₂_same.mpr
    intro m _
    apply settledBy_alignedMethod
  · rw [hvalue]
    apply List.forall₂_map_right_iff.mpr
    apply List.forall₂_same.mpr
    intro m _
    apply Method.SettledBy.of_nil m.name_stripped m.descriptor_stripped m.annotations_stripped
  · rw [hvalue]
    apply List.forall₂_same.mpr
    intro m _
    apply Method.SettledBy.refl

/-- A run of stages settles each method by what the stages attempt in turn. -/
theorem forall₂_settledBy_foldl_run
    {stages : List Stage} (h : ∀ stage ∈ stages, stage.IsPass ∨ stage.Relabels) (c : Class) :
  List.Forall₂ (Method.SettledBy (attemptsInTurn stages c)) c.methods
    (stages.foldl (fun c stage => (stage.run c).value) c).methods
  := by
  induction stages generalizing c with
  | nil =>
    apply List.forall₂_same.mpr
    intro m _
    apply Method.SettledBy.refl
  | cons stage stages ih =>
    obtain ⟨hstage, hstages⟩ := List.forall_mem_cons.mp h
    rw [List.foldl_cons, attemptsInTurn]
    apply forall₂_trans (forall₂_settledBy_run hstage c) (ih hstages _)
    intro m m' m'' hm hm'
    apply hm.append hm'

end Stage

/-- However often a constructor is aligned, and with whatever synthetic parameters, the
annotations of each visibility are settled: the first attempt that fits and is not empty
removes its entries from a list with an entry for each parameter, and no other attempt
removes any.  Hence the same holds of the constructors of a class in a row of pipelines
whose stages are aligners, strippers and stages that relabel the class; the annotations of
its other methods stay as they are. -/
theorem annotations_trimmed_once :
  (∀ (calls : List (AnnotationAligner × List FieldType)) (m : Method) (v : Visibility),
      (AnnotationAligner.alignInTurn calls m).value.annotations v
        = (m.annotations v).settled m.parameters (calls.map Prod.snd))
    ∧ ∀ (ps : List Pipeline) (c : Class),
        (∀ p ∈ ps, ∀ stage ∈ p.stages, stage.IsPass ∨ stage.Relabels) →
        List.Forall₂ (Method.SettledBy (Stage.attemptsInTurn (ps.flatMap Pipeline.stages) c))
          c.methods (Pipeline.transformInTurn ps c).value.methods
  := by
  constructor
  · intro calls m v
    rw [AnnotationAligner.alignInTurn, Report.value_foldlM, ← Method.annotations_foldl_aligned,
      List.foldl_map]
    simp only [AnnotationAligner.value_alignConstructor]
  · intro ps c hps
    have hstages : ∀ stage ∈ ps.flatMap Pipeline.stages, stage.IsPass ∨ stage.Relabels := by
      intro stage hmem
      obtain ⟨p, hp, hstage⟩ := List.mem_flatMap.mp hmem
      apply hps p hp stage hstage
    rw [Pipeline.value_transformInTurn]
    apply Stage.forall₂_settledBy_foldl_run hstages

/-- The class `Class.planet` as an inner class, of a class that is the type of the first
parameter of its constructor. -/
def Class.innerPlanet : Class :=
  { Class.planet with
    flags := ∅
    innerClasses := [⟨⟨"Planet"⟩, some .string, some "Planet", ∅⟩] }

/-- A pipeline in which a class becomes an enum between two aligners. -/
def Pipeline.enumBetween : Pipeline :=
  ⟨false,
    [.alignAnnotations ⟨false⟩, .relabel "host" none (some {.accEnum}),
      .alignAnnotations ⟨true⟩]⟩

/-- The constructor begins with the synthetic parameters of both kinds.  The first aligner
removes one entry from the three of its visible annotations and the second one none. -/
theorem annotations_trimmed_once_planet :
  (∀ p ∈ [Pipeline.enumBetween], ∀ stage ∈ p.stages, stage.IsPass ∨ stage.Relabels)
    ∧ List.Forall₂ (Method.SettledBy [[.string], [.string, .base .int]])
        Class.innerPlanet.methods
        (Pipeline.transformInTurn [.enumBetween] .innerPlanet).value.methods
    ∧ ((Pipeline.transformInTurn [.enumBetween] .innerPlanet).value.methods.map fun m =>
        (m.visible.lists.map List.length, m.visible.count)) = [(some 2, some 2)]
  := by
  have hp : ∀ p ∈ [Pipeline.enumBetween], ∀ stage ∈ p.stages,
      stage.IsPass ∨ stage.Relabels := by
    simp [Pipeline.enumBetween, Stage.IsPass, Stage.isAligner, Stage.isStripper,
      Stage.relabels_relabel]
  have hattempts : Stage.attemptsInTurn ([Pipeline.enumBetween].flatMap Pipeline.stages)
      .innerPlanet = [[.string], [.string, .base .int]] := rfl
  have hsettled := annotations_trimmed_once.2 [.enumBetween] .innerPlanet hp
  rw [hattempts] at hsettled
  exact ⟨hp, hsettled, rfl⟩

end ClassFile
