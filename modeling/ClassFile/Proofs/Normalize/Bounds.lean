import ClassFile.Proofs.Normalize.Stages

/-!
# The aligner stays within bounds

Two operations of the aligner have bounds.  The number of synthetic parameters is taken
from the number of all parameters, and as many entries are removed from the front of a
list.  Here they are operations that stop at a fault where they would go beyond their
bounds (`AnnotationAligner.alignChecked`).  The bounds are not checked where the operations
are used: told of more synthetic parameters than parameters, the alignment of a visibility
does stop.

It is never told so, since a constructor is aligned only if it begins with the synthetic
parameters.  To say this of all that leads to an alignment, the steps of the aligner are
written for any way of aligning a visibility (`Alignment`).  Those that stay within bounds
(`Alignment.WithinBounds`) are closed under sequence, so from a visibility this carries over
to constructors, classes, stages and pipelines.
-/

namespace ClassFile

/-! ### Checked operations -/

/-- Why a step cannot go on. -/
inductive Fault where
  /-- The number `s` was to be taken from the smaller number `n`. -/
  | underflow (n s : Nat)
  /-- The first `s` entries were to be removed from a list with fewer than these. -/
  | outOfRange (length s : Nat)
  /-- Annotations were to be aligned for `n` parameters and more synthetic ones, `s`. -/
  | excess (n s : Nat)
deriving DecidableEq, Repr

/-- A step that reports as it goes and may stop at a fault. -/
abbrev Checked (α : Type) : Type := ExceptT Fault Report α

namespace Checked

/-- The difference of two numbers, unless it is negative. -/
def subtract (n s : Nat) : Checked Nat :=
  if s ≤ n then pure (n - s) else throw (.underflow n s)

/-- A list without its first `s` entries, if it has as many. -/
def removeFirst (s : Nat) (lists : List (List Annotation)) :
    Checked (List (List Annotation)) :=
  if s ≤ lists.length then pure (lists.drop s) else throw (.outOfRange lists.length s)

/-- Steps in sequence stop where the first one does. -/
theorem value_run_bind_of_error
    {α β : Type} {step : Checked α} {fault : Fault} (h : step.run.value = .error fault)
    (next : α → Checked β) :
  (step >>= next).run.value = .error fault
  := by
  rw [ExceptT.run_bind, Report.value_bind, h]
  rfl

end Checked

namespace AnnotationAligner

/-- Trims a list with checked operations, and says whether it had one of the expected
lengths. -/
def trimChecked (pass : AnnotationAligner) (m : MethodRef) (v : Visibility) (n s : Nat)
    (lists : List (List Annotation)) : Checked (Bool × List (List Annotation)) :=
  if lists.length = n then do
    Report.note pass.verbose (.entriesRemoved m v s)
    let left ← Checked.removeFirst s lists
    return (true, left)
  else do
    let k ← Checked.subtract n s
    if lists.length = k then
      Report.note pass.verbose (.alreadyAligned m v)
      return (true, lists)
    else
      return (false, lists)

/-- Aligns the annotations of one visibility as `align` does, with checked operations. -/
def alignChecked (pass : AnnotationAligner) (m : MethodRef) (v : Visibility) (n s : Nat)
    (a : ParameterAnnotations) : Checked ParameterAnnotations :=
  match a.lists with
  | some lists => do
    let (expected, left) ← pass.trimChecked m v n s lists
    if expected ∧ left.length ≤ 255 then
      pure ()
    else
      Report.raise pass.verbose (.unexpectedCount m v left.length)
    return a.withLists left
  | none => do
    Report.note pass.verbose (.attributeAbsent m v)
    return a

variable (pass : AnnotationAligner) (m : MethodRef) (v : Visibility)

/-- Within bounds, checked operations trim a list as `trim` does, and the same is noted. -/
theorem trimChecked_of_le
    {n s : Nat} (h : s ≤ n) (lists : List (List Annotation)) :
  pass.trimChecked m v n s lists
    = (do
        liftM (pass.noteLength m v n s lists.length)
        return (decide (lists.length = n ∨ lists.length = n - s),
          ParameterAnnotations.trim n s lists))
  := by
  rw [trimChecked, noteLength, ParameterAnnotations.trim]
  by_cases hn : lists.length = n
  · rw [if_pos hn, if_pos hn, if_pos hn, Checked.removeFirst, if_pos (hn ▸ h)]
    simp [hn]
  · rw [if_neg hn, if_neg hn, if_neg hn, Checked.subtract, if_pos h, pure_bind]
    by_cases hns : lists.length = n - s
    · rw [if_pos hns, if_pos hns]
      simp [hns]
    · rw [if_neg hns, if_neg hns]
      simp [hn, hns]

/-- Within bounds, checked operations make no difference to an alignment. -/
theorem alignChecked_of_le
    {n s : Nat} (h : s ≤ n) (a : ParameterAnnotations) :
  pass.alignChecked m v n s a = liftM (pass.align m v n s a)
  := by
  rw [alignChecked, align, liftM_bind, liftM_pure]
  cases hlists : a.lists with
  | none => rw [ParameterAnnotations.aligned_of_none hlists, examine]
  | some lists =>
    rw [ParameterAnnotations.aligned_of_some hlists, examine, liftM_bind]
    -- What is left to compare is whether the length is reported.
    simp only [trimChecked_of_le pass m v h, bind_assoc, pure_bind, checkLength,
      decide_eq_true_eq]
    split
    · simp
    · rfl

/-- Beyond bounds a list cannot be trimmed.  Its length decides which of the operations is
the one that stops. -/
theorem trimChecked_of_lt
    {n s : Nat} (h : n < s) (lists : List (List Annotation)) :
  (pass.trimChecked m v n s lists).run.value
    = .error (if lists.length = n then .outOfRange n s else .underflow n s)
  := by
  have hle : ¬ s ≤ n := Nat.not_le_of_lt h
  rw [trimChecked]
  split
  · next hn =>
    rw [Checked.removeFirst, hn, if_neg hle]
    rfl
  · rw [Checked.subtract, if_neg hle]
    rfl

/-- An alignment stops at a fault exactly if there is a list and there are more synthetic
parameters than parameters. -/
theorem alignChecked_eq_error_iff
    {n s : Nat} {a : ParameterAnnotations} {fault : Fault} :
  (pass.alignChecked m v n s a).run.value = .error fault
    ↔ n < s ∧ ∃ lists, a.lists = some lists
      ∧ fault = if lists.length = n then .outOfRange n s else .underflow n s
  := by
  obtain hlt | hle := Nat.lt_or_ge n s
  · cases hlists : a.lists with
    | none =>
      rw [alignChecked, hlists]
      constructor
      · intro h
        cases h
      · rintro ⟨-, _, h, -⟩
        cases h
    | some lists =>
      have hvalue : (pass.alignChecked m v n s a).run.value
          = .error (if lists.length = n then .outOfRange n s else .underflow n s) := by
        rw [alignChecked, hlists]
        apply Checked.value_run_bind_of_error (pass.trimChecked_of_lt m v hlt lists)
      rw [hvalue]
      constructor
      · intro h
        use hlt, lists, rfl, (Except.error.inj h).symm
      · rintro ⟨-, _, ⟨⟩, rfl⟩
        rfl
  · rw [alignChecked_of_le pass m v hle]
    constructor
    · intro h
      cases h
    · rintro ⟨hlt, -⟩
      apply absurd hlt (Nat.not_lt_of_le hle)

-- The note comes before the fault.
example :
  ((mk true).alignChecked m .visible 1 2 { lists := some [[]] }).run
    = ⟨.error (.outOfRange 1 2), [], [.entriesRemoved m .visible 2]⟩
  := rfl

end AnnotationAligner

/-! ### Steps that stay within bounds -/

/-- A way for an aligner to align the annotations of one visibility of a method, given the
number of the parameters and that of the synthetic ones. -/
abbrev Alignment : Type :=
  AnnotationAligner → MethodRef → Visibility → Nat → Nat → ParameterAnnotations →
    Checked ParameterAnnotations

namespace Alignment

/-- The alignment that stops, before it does anything, if there are more synthetic
parameters than parameters. -/
def guarded (align : Alignment) : Alignment := fun pass m v n s a =>
  if s ≤ n then align pass m v n s a else throw (.excess n s)

/-- A step that is written for any alignment stays within bounds, and has the report `r`,
when it never reaches an alignment, nor an operation in one, beyond its bounds. -/
structure WithinBounds {α : Type} (step : Alignment → Checked α) (r : Report α) : Prop where
  /-- Whatever an alignment does, it makes no difference to guard it: it is reached only with
  at most as many synthetic parameters as parameters. -/
  reached : ∀ align : Alignment, step align.guarded = step align
  /-- With checked operations the step does not stop, and its report is `r`. -/
  checked : step AnnotationAligner.alignChecked = liftM r

namespace WithinBounds

variable {α β : Type}

/-- A step without alignments stays within bounds. -/
theorem lift
    (r : Report α) :
  WithinBounds (fun _ => liftM r) r
  := by
  constructor
  · intro align
    rfl
  · rfl

theorem pure
    (a : α) :
  WithinBounds (fun _ => Pure.pure a) (Pure.pure a)
  := by
  constructor
  · intro align
    rfl
  · rw [liftM_pure]

/-- An alignment stays within bounds if there are no more synthetic parameters than
parameters. -/
theorem align
    (pass : AnnotationAligner) (m : MethodRef) (v : Visibility) {n s : Nat} (h : s ≤ n)
    (a : ParameterAnnotations) :
  WithinBounds (fun align => align pass m v n s a) (pass.align m v n s a)
  := by
  constructor
  · intro align
    apply if_pos h
  · apply AnnotationAligner.alignChecked_of_le pass m v h

/-- Steps in sequence stay within bounds if each of them does. -/
theorem bind
    {step : Alignment → Checked α} {r : Report α}
    {next : Alignment → α → Checked β} {next' : α → Report β}
    (h : WithinBounds step r) (h' : ∀ a, WithinBounds (fun align => next align a) (next' a)) :
  WithinBounds (fun align => step align >>= next align) (r >>= next')
  := by
  constructor
  · intro align
    have hnext : next align.guarded = next align := by
      funext a
      apply (h' a).reached
    rw [h.reached, hnext]
  · have hnext : next AnnotationAligner.alignChecked = fun a => liftM (next' a) := by
      funext a
      apply (h' a).checked
    rw [h.checked, hnext, liftM_bind]

/-- A step made for each member of a list stays within bounds if it does for each. -/
theorem mapM
    {step : Alignment → α → Checked β} {step' : α → Report β}
    (h : ∀ a, WithinBounds (fun align => step align a) (step' a)) (l : List α) :
  WithinBounds (fun align => l.mapM (step align)) (l.mapM step')
  := by
  induction l with
  | nil => apply pure
  | cons a l ih =>
    simp only [List.mapM_cons]
    apply bind (h a)
    intro b
    apply bind ih
    intro bs
    apply pure

/-- Steps made for the members of a list, each from the value of the one before, stay within
bounds if each does from any value. -/
theorem foldlM
    {step : Alignment → β → α → Checked β} {step' : β → α → Report β}
    (h : ∀ b a, WithinBounds (fun align => step align b a) (step' b a)) (l : List α) (b : β) :
  WithinBounds (fun align => l.foldlM (step align) b) (l.foldlM step' b)
  := by
  induction l generalizing b with
  | nil => apply pure
  | cons a l ih =>
    simp only [List.foldlM_cons]
    apply bind (h b a)
    apply ih

end WithinBounds

end Alignment

/-! ### Constructors and classes -/

namespace AnnotationAligner

/-- Aligns a constructor as `alignConstructor` does, each visibility in the given way. -/
def alignConstructorBy (align : Alignment) (pass : AnnotationAligner)
    (synthetic : List FieldType) (m : Method) : Checked Method :=
  if m.descriptor.StartsWith synthetic then do
    let n := m.parameters.length
    let s := synthetic.length
    let visible ← align pass m.reference .visible n s m.visible
    let invisible ← align pass m.reference .invisible n s m.invisible
    return { m with visible, invisible }
  else do
    Report.raise pass.verbose (.missingSynthetic m.reference synthetic)
    return m

/-- Aligns a method as `alignMethod` does. -/
def alignMethodBy (align : Alignment) (pass : AnnotationAligner)
    (synthetic : List FieldType) (m : Method) : Checked Method :=
  if m.IsConstructor then pass.alignConstructorBy align synthetic m else pure m

/-- Aligns a class as `run` does. -/
def runBy (align : Alignment) (pass : AnnotationAligner) (c : Class) : Checked Class := do
  Report.note pass.verbose (.classified c.name (Classification.of c))
  match c.expectedSyntheticParameters with
  | some synthetic =>
    let methods ← c.methods.mapM (pass.alignMethodBy align synthetic)
    return { c with methods }
  | none => return c

variable (pass : AnnotationAligner)

/-- The alignment of a constructor stays within bounds: where it begins with the synthetic
parameters, it has no fewer parameters. -/
theorem withinBounds_alignConstructor
    (synthetic : List FieldType) (m : Method) :
  Alignment.WithinBounds (fun align => pass.alignConstructorBy align synthetic m)
    (pass.alignConstructor synthetic m)
  := by
  simp only [alignConstructorBy, alignConstructor]
  split
  · next hstarts =>
    have hle : synthetic.length ≤ m.parameters.length := List.IsPrefix.length_le hstarts
    apply Alignment.WithinBounds.bind (.align pass m.reference .visible hle m.visible)
    intro visible
    apply Alignment.WithinBounds.bind (.align pass m.reference .invisible hle m.invisible)
    intro invisible
    apply Alignment.WithinBounds.pure
  · apply Alignment.WithinBounds.bind (.lift _)
    intro _
    apply Alignment.WithinBounds.pure

theorem withinBounds_alignMethod
    (synthetic : List FieldType) (m : Method) :
  Alignment.WithinBounds (fun align => pass.alignMethodBy align synthetic m)
    (pass.alignMethod synthetic m)
  := by
  simp only [alignMethodBy, alignMethod]
  split
  · apply withinBounds_alignConstructor
  · apply Alignment.WithinBounds.pure

/-- The alignment of a class stays within bounds, whatever its kind. -/
theorem withinBounds_run
    (c : Class) :
  Alignment.WithinBounds (fun align => pass.runBy align c) (pass.run c)
  := by
  simp only [runBy, run]
  apply Alignment.WithinBounds.bind (.lift _)
  intro _
  cases c.expectedSyntheticParameters with
  | none => apply Alignment.WithinBounds.pure
  | some synthetic =>
    have hmethods := Alignment.WithinBounds.mapM (pass.withinBounds_alignMethod synthetic)
      c.methods
    apply hmethods.bind
    intro methods
    apply Alignment.WithinBounds.pure

end AnnotationAligner

/-! ### Stages and pipelines -/

/-- Runs a stage on a class as `run` does.  Only an aligner makes use of the alignment. -/
def Stage.runBy (align : Alignment) : Stage → Class → Checked Class
  | alignAnnotations pass, c => pass.runBy align c
  | stripLocals pass, c => liftM (pass.run c)
  | host _ run, c => liftM (run c)

theorem Stage.withinBounds_run
    (stage : Stage) (c : Class) :
  Alignment.WithinBounds (fun align => stage.runBy align c) (stage.run c)
  := by
  cases stage with
  | alignAnnotations pass => apply pass.withinBounds_run
  | stripLocals pass => apply Alignment.WithinBounds.lift
  | host name run => apply Alignment.WithinBounds.lift

namespace Pipeline

/-- Runs one stage on a class as `runStage` does. -/
def runStageBy (align : Alignment) (p : Pipeline) (c : Class) (stage : Stage) :
    Checked Class := do
  Report.note p.verbose (.running stage.name c.name)
  stage.runBy align c

/-- Runs all stages on a class as `transform` does. -/
def transformBy (align : Alignment) (p : Pipeline) (c : Class) : Checked Class :=
  p.stages.foldlM (p.runStageBy align) c

/-- A run of a pipeline stays within bounds, whatever the host does in between. -/
theorem withinBounds_transform
    (p : Pipeline) (c : Class) :
  Alignment.WithinBounds (fun align => p.transformBy align c) (p.transform c)
  := by
  apply Alignment.WithinBounds.foldlM
  intro c stage
  apply Alignment.WithinBounds.bind (.lift _)
  intro _
  apply stage.withinBounds_run

end Pipeline

/-- With checked operations, the alignment of a visibility stops at a fault exactly if there
is a list and there are more synthetic parameters than parameters.  But the alignment of a
constructor, whatever its descriptor, its annotations and the synthetic parameters, reaches
that of a visibility only with no more synthetic parameters than parameters, and with
checked operations it does not stop and reports what it does without.  The same holds of a
run on a class, and of a run of a pipeline, whatever its stages make of the class before it
comes to an aligner. -/
theorem AnnotationAligner.never_out_of_bounds
    (pass : AnnotationAligner) :
  (∀ m v n s a fault,
      (pass.alignChecked m v n s a).run.value = .error fault
        ↔ n < s ∧ ∃ lists, a.lists = some lists
          ∧ fault = if lists.length = n then .outOfRange n s else .underflow n s)
    ∧ (∀ synthetic m,
        Alignment.WithinBounds (fun align => pass.alignConstructorBy align synthetic m)
          (pass.alignConstructor synthetic m))
    ∧ (∀ c, Alignment.WithinBounds (fun align => pass.runBy align c) (pass.run c))
    ∧ ∀ (p : Pipeline) (c : Class),
        Alignment.WithinBounds (fun align => p.transformBy align c) (p.transform c)
  := by
  constructor
  · intro m v n s a fault
    apply alignChecked_eq_error_iff
  · use pass.withinBounds_alignConstructor, pass.withinBounds_run
    apply Pipeline.withinBounds_transform

end ClassFile
