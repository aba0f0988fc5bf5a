import ClassFile.Proofs.Normalize.Stages
import Mathlib.Logic.Function.Iterate

/-!
# The canonical form of a class

A pipeline of aligners and strippers brings a class into a form that depends only on which
of the two passes occur in it: neither their order nor their number matters, nor which of
them log.  Every aligner in the pipeline reports the same anomalies, those of the class as
it was at the start.

The proof is by induction on the stages.  Each stage is absorbed by the form that the
stages after it produce, since alignment and stripping are idempotent and commute.
-/

namespace ClassFile

/-! ### Both passes on a class -/

namespace Class

/-- The class after alignment and after stripping, as far as they are asked for. -/
def canonical (aligns strips : Bool) (c : Class) : Class :=
  match aligns, strips with
  | false, false => c
  | true, false => c.aligned
  | false, true => c.stripped
  | true, true => c.aligned.stripped

/-- Alignment beforehand is absorbed. -/
theorem canonical_aligned
    (aligns strips : Bool) (c : Class) :
  c.aligned.canonical aligns strips = c.canonical true strips
  := by
  cases aligns with
  | false => cases strips <;> rfl
  | true =>
    cases strips with
    | false => apply aligned_aligned
    | true => rw [canonical, canonical, aligned_aligned]

/-- Stripping beforehand is absorbed. -/
theorem canonical_stripped
    (aligns strips : Bool) (c : Class) :
  c.stripped.canonical aligns strips = c.canonical aligns true
  := by
  cases aligns with
  | false =>
    cases strips with
    | false => rfl
    | true => apply stripped_stripped
  | true =>
    cases strips with
    | false => apply aligned_stripped
    | true => rw [canonical, canonical, aligned_stripped, stripped_stripped]

/-- The canonical form of a class has the anomalies of the class. -/
theorem anomalies_canonical
    (aligns strips : Bool) (c : Class) :
  (c.canonical aligns strips).anomalies = c.anomalies
  := by
  cases aligns with
  | false =>
    cases strips with
    | false => rfl
    | true => apply anomalies_stripped
  | true =>
    cases strips with
    | false => apply anomalies_aligned
    | true => rw [canonical, anomalies_stripped, anomalies_aligned]

/-- The canonical form of a canonical form is that form itself. -/
theorem canonical_canonical
    (aligns strips : Bool) (c : Class) :
  (c.canonical aligns strips).canonical aligns strips = c.canonical aligns strips
  := by
  cases aligns with
  | false =>
    cases strips with
    | false => rfl
    | true => apply stripped_stripped
  | true =>
    cases strips with
    | false => apply aligned_aligned
    | true =>
      apply Eq.trans (canonical_stripped true true c.aligned)
      apply canonical_aligned

end Class

/-! ### Pipelines of passes -/

/-- A run of passes brings a class into its canonical form. -/
theorem Stage.foldl_run_eq_canonical
    {stages : List Stage} (h : ∀ stage ∈ stages, stage.IsPass) (c : Class) :
  stages.foldl (fun c stage => (stage.run c).value) c
    = c.canonical (stages.any isAligner) (stages.any isStripper)
  := by
  induction stages generalizing c with
  | nil => rfl
  | cons stage stages ih =>
    obtain ⟨hstage, hstages⟩ := List.forall_mem_cons.mp h
    rw [List.foldl_cons, ih hstages]
    obtain ⟨pass, rfl⟩ | ⟨pass, rfl⟩ := hstage.cases
    · rw [run, pass.value_run, Class.canonical_aligned]
      rfl
    · rw [run, pass.value_run, Class.canonical_stripped]
      rfl

namespace Pipeline

variable {p : Pipeline}

theorem value_transform_of_isPass
    (h : ∀ stage ∈ p.stages, stage.IsPass) (c : Class) :
  (p.transform c).value
    = c.canonical (p.stages.any Stage.isAligner) (p.stages.any Stage.isStripper)
  := by
  rw [value_transform, Stage.foldl_run_eq_canonical h]

/-- In a run of passes every aligner reports the anomalies of the class at the start. -/
theorem anomalies_foldlM_of_isPass
    (p : Pipeline) {stages : List Stage} (h : ∀ stage ∈ stages, stage.IsPass) (c : Class) :
  (stages.foldlM p.runStage c).anomalies
    = (List.replicate (stages.countP Stage.isAligner) c.anomalies).flatten
  := by
  induction stages generalizing c with
  | nil => rfl
  | cons stage stages ih =>
    obtain ⟨hstage, hstages⟩ := List.forall_mem_cons.mp h
    rw [List.foldlM_cons, Report.anomalies_bind, ih hstages, value_runStage,
      anomalies_runStage]
    obtain ⟨pass, rfl⟩ | ⟨pass, rfl⟩ := hstage.cases
    · rw [Stage.run, pass.value_run, pass.anomalies_run, Class.anomalies_aligned,
        List.countP_cons_of_pos rfl, List.replicate_succ, List.flatten_cons]
    · rw [Stage.run, pass.value_run, pass.anomalies_run, Class.anomalies_stripped,
        List.countP_cons_of_neg Bool.false_ne_true, List.nil_append]

theorem anomalies_transform_of_isPass
    (h : ∀ stage ∈ p.stages, stage.IsPass) (c : Class) :
  (p.transform c).anomalies
    = (List.replicate (p.stages.countP Stage.isAligner) c.anomalies).flatten
  := p.anomalies_foldlM_of_isPass h c

/-- The class after a number of runs of a pipeline. -/
def repeated (p : Pipeline) (runs : Nat) (c : Class) : Class :=
  (fun c => (p.transform c).value)^[runs] c

/-- The first run of a pipeline of passes does all that further runs would do. -/
theorem repeated_succ_of_isPass
    (h : ∀ stage ∈ p.stages, stage.IsPass) (runs : Nat) (c : Class) :
  p.repeated (runs + 1) c
    = c.canonical (p.stages.any Stage.isAligner) (p.stages.any Stage.isStripper)
  := by
  induction runs with
  | zero => apply value_transform_of_isPass h
  | succ runs ih =>
    have hstep : p.repeated (runs + 1 + 1) c
        = (p.transform (p.repeated (runs + 1) c)).value := by
      apply Function.iterate_succ_apply'
    rw [hstep, ih, value_transform_of_isPass h, Class.canonical_canonical]

end Pipeline

/-- The class after a run of a stage, if that is wanted. -/
def Stage.runIf (stage : Stage) (wanted : Bool) (c : Class) : Class :=
  if wanted then (stage.run c).value else c

/-- A pipeline of aligners and strippers, in any order and number and of any verbosity,
does to a class what one aligner and one stripper do, in either order, as far as the
pipeline has such stages; and it reports the anomalies of one aligner as often as it has
aligners.  After a run of the standard pipeline every further run leaves the class as it
is and reports what the first run did. -/
theorem Pipeline.transform_canonical
    (p : Pipeline) (hp : ∀ stage ∈ p.stages, stage.IsPass)
    (aligner : AnnotationAligner) (stripper : LocalVariableStripper) (c : Class) :
  (p.transform c).value
      = (Stage.stripLocals stripper).runIf (p.stages.any Stage.isStripper)
          ((Stage.alignAnnotations aligner).runIf (p.stages.any Stage.isAligner) c)
    ∧ (p.transform c).value
      = (Stage.alignAnnotations aligner).runIf (p.stages.any Stage.isAligner)
          ((Stage.stripLocals stripper).runIf (p.stages.any Stage.isStripper) c)
    ∧ (p.transform c).anomalies
      = (List.replicate (p.stages.countP Stage.isAligner) (aligner.run c).anomalies).flatten
    ∧ ∀ config q, standard config = .ok q → ∀ runs,
        (q.transform (q.repeated (runs + 1) c)).value = q.repeated (runs + 1) c
          ∧ (q.transform (q.repeated (runs + 1) c)).anomalies = (q.transform c).anomalies
  := by
  rw [value_transform_of_isPass hp]
  constructor
  · cases p.stages.any Stage.isAligner <;> cases p.stages.any Stage.isStripper <;>
      simp [Stage.runIf, Stage.run, Class.canonical]
  constructor
  · cases p.stages.any Stage.isAligner <;> cases p.stages.any Stage.isStripper <;>
      simp [Stage.runIf, Stage.run, Class.canonical, Class.aligned_stripped]
  constructor
  · rw [anomalies_transform_of_isPass hp, aligner.anomalies_run]
  · intro config q hq runs
    have hpass := isPass_of_standard hq
    rw [repeated_succ_of_isPass hpass, value_transform_of_isPass hpass,
      anomalies_transform_of_isPass hpass, anomalies_transform_of_isPass hpass,
      Class.canonical_canonical, Class.anomalies_canonical]
    constructor
    · rfl
    · rfl

/-- Two aligners around a stripper report the list of unexpected length twice, and the
class is the one after a single aligner and a single stripper. -/
theorem Pipeline.transform_canonical_planet :
  let p : Pipeline :=
    ⟨true, [.alignAnnotations ⟨true⟩, .stripLocals ⟨false⟩, .alignAnnotations ⟨false⟩]⟩
  let found : Anomaly := .unexpectedCount
    ⟨⟨"Planet"⟩, "<init>", ⟨[.string, .base .int, .base .double], .void⟩⟩ .invisible 2
  let q : Pipeline := ⟨false, [.alignAnnotations ⟨false⟩, .stripLocals ⟨false⟩]⟩
  (∀ stage ∈ p.stages, stage.IsPass)
    ∧ (p.transform .planet).value
      = ((LocalVariableStripper.mk false).run
          ((AnnotationAligner.mk false).run .planet).value).value
    ∧ (p.transform .planet).anomalies = [found, found]
    ∧ standard {} = .ok q
    ∧ (q.transform (q.repeated 2 .planet)).value = q.repeated 2 .planet
    ∧ (q.transform (q.repeated 2 .planet)).anomalies = [found]
  := by
  intro p found q
  have hp : ∀ stage ∈ p.stages, stage.IsPass := by
    simp [p, Stage.IsPass, Stage.isAligner, Stage.isStripper]
  have hq : standard {} = .ok q := rfl
  obtain ⟨hvalue, -, hanomalies, hagain⟩ :=
    Pipeline.transform_canonical p hp ⟨false⟩ ⟨false⟩ .planet
  obtain ⟨hvalue', hanomalies'⟩ := hagain {} q hq 1
  exact ⟨hp, hvalue, hanomalies, hq, hvalue', hanomalies'⟩

end ClassFile
