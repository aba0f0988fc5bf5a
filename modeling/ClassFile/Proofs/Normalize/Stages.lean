import ClassFile.Normalize.Pipeline
import ClassFile.Proofs.Normalize.Alignment
import Mathlib.Data.List.Forall2
import Mathlib.Tactic.Use

/-!
# Stages and runs of stages

The value and the anomalies of the stripper on a class, the kinds of stages, and what a
pipeline does in terms of its stages.  A pipeline makes no difference to the value and the
anomalies beyond the order of its stages, so a run of several pipelines in a row is the run
of all their stages.
-/

namespace ClassFile

/-! ### The stripper -/

namespace MethodBody

/-- A body that was stripped has no table left to strip. -/
@[simp]
theorem stripped_stripped
    (b : MethodBody) :
  b.stripped.stripped = b.stripped
  := by
  have hnone : b.stripped.namedVariables? = none := by
    rw [stripped]
    split
    · rfl
    · next h => apply h
  rw [stripped, hnone]

end MethodBody

namespace Method

@[simp]
theorem name_stripped
    (m : Method) :
  m.stripped.name = m.name
  := rfl

@[simp]
theorem descriptor_stripped
    (m : Method) :
  m.stripped.descriptor = m.descriptor
  := rfl

@[simp]
theorem annotations_stripped
    (m : Method) (v : Visibility) :
  m.stripped.annotations v = m.annotations v
  := by
  cases v <;> rfl

@[simp]
theorem stripped_stripped
    (m : Method) :
  m.stripped.stripped = m.stripped
  := by
  simp [stripped, Function.comp_def]

/-- Alignment changes nothing that stripping looks at, nor the other way round. -/
theorem aligned_stripped
    (synthetic : List FieldType) (m : Method) :
  m.stripped.aligned synthetic = (m.aligned synthetic).stripped
  := by
  by_cases h : m.descriptor.StartsWith synthetic
  · have h' : m.stripped.descriptor.StartsWith synthetic := h
    rw [aligned_of_startsWith h, aligned_of_startsWith h']
    rfl
  · have h' : ¬ m.stripped.descriptor.StartsWith synthetic := h
    rw [aligned_of_not_startsWith h, aligned_of_not_startsWith h']

end Method

namespace Class

/-- The class with all its methods stripped. -/
def stripped (c : Class) : Class := { c with methods := c.methods.map Method.stripped }

/-- A stripped method is aligned as the method was. -/
theorem alignedMethod_stripped
    (c : Class) (m : Method) :
  c.alignedMethod m.stripped = (c.alignedMethod m).stripped
  := by
  have hconstructor : m.stripped.IsConstructor ↔ m.IsConstructor := Iff.rfl
  cases h : c.expectedSyntheticParameters with
  | none => rw [alignedMethod_of_none h, alignedMethod_of_none h]
  | some synthetic =>
    rw [alignedMethod_of_some h, alignedMethod_of_some h]
    by_cases hm : m.IsConstructor <;> simp [hconstructor, hm, Method.aligned_stripped]

/-- A stripped method has the anomalies that it had before. -/
theorem methodAnomalies_stripped
    (c : Class) (m : Method) :
  c.methodAnomalies m.stripped = c.methodAnomalies m
  := rfl

/-- Stripping a class is idempotent. -/
theorem stripped_stripped
    (c : Class) :
  c.stripped.stripped = c.stripped
  := by
  simp [stripped]

/-- Alignment and stripping commute. -/
theorem aligned_stripped
    (c : Class) :
  c.stripped.aligned = c.aligned.stripped
  := by
  simp [aligned, stripped, alignedMethod_stripped]

/-- A stripped class has the anomalies that it had before. -/
theorem anomalies_stripped
    (c : Class) :
  c.stripped.anomalies = c.anomalies
  := by
  simp [anomalies, stripped, List.flatMap_map, methodAnomalies_stripped]

end Class

namespace LocalVariableStripper

variable (pass : LocalVariableStripper)

@[simp]
theorem value_run
    (c : Class) :
  (pass.run c).value = c.stripped
  := by
  have hmethod : ∀ m, (pass.strip m).value = m.stripped := by
    intro m
    rfl
  simp [run, Class.stripped, hmethod]

@[simp]
theorem anomalies_run
    (c : Class) :
  (pass.run c).anomalies = []
  := by
  have hmethod : ∀ m, (pass.strip m).anomalies = [] := by
    intro m
    simp only [strip, Report.anomalies_bind, Report.anomalies_pure, List.append_nil]
    cases m.body.bind MethodBody.namedVariables? <;> rfl
  simp [run, hmethod]

end LocalVariableStripper

/-! ### Kinds of stages -/

namespace Stage

/-- Whether a stage is the alignment of parameter annotations. -/
def isAligner : Stage → Bool
  | alignAnnotations _ => true
  | stripLocals _ => false
  | host _ _ => false

/-- Whether a stage is the removal of local variable tables. -/
def isStripper : Stage → Bool
  | alignAnnotations _ => false
  | stripLocals _ => true
  | host _ _ => false

/-- A stage is a pass when it is one of the two of this library. -/
def IsPass (stage : Stage) : Prop := stage.isAligner ∨ stage.isStripper

instance (stage : Stage) : Decidable stage.IsPass := inferInstanceAs (Decidable (_ ∨ _))

/-- A stage relabels when it gives every class another name and other flags at most. -/
def Relabels (stage : Stage) : Prop :=
  ∀ c, ∃ name? flags?, (stage.run c).value = c.relabel name? flags?

theorem relabels_relabel
    (stageName : String) (name? : Option ClassName) (flags? : Option (Flags ClassFlag)) :
  (relabel stageName name? flags?).Relabels
  := by
  intro c
  use name?, flags?
  rfl

/-- A pass is the aligner or the stripper. -/
theorem IsPass.cases
    {stage : Stage} (h : stage.IsPass) :
  (∃ pass, stage = alignAnnotations pass) ∨ ∃ pass, stage = stripLocals pass
  := by
  cases stage with
  | alignAnnotations pass =>
    left
    use pass
  | stripLocals pass =>
    right
    use pass
  | host name run => simp [IsPass, isAligner, isStripper] at h

/-- What a pass or a stage that relabels can do to a class. -/
theorem value_run_cases
    {stage : Stage} (h : stage.IsPass ∨ stage.Relabels) (c : Class) :
  (∃ pass, stage = alignAnnotations pass ∧ (stage.run c).value = c.aligned)
    ∨ (∃ pass, stage = stripLocals pass ∧ (stage.run c).value = c.stripped)
    ∨ ∃ name run name? flags?,
        stage = host name run ∧ (stage.run c).value = c.relabel name? flags?
  := by
  cases stage with
  | alignAnnotations pass =>
    left
    use pass, rfl
    apply pass.value_run
  | stripLocals pass =>
    right; left
    use pass, rfl
    apply pass.value_run
  | host name run =>
    right; right
    obtain hpass | hrelabels := h
    · simp [IsPass, isAligner, isStripper] at hpass
    · obtain ⟨name?, flags?, hvalue⟩ := hrelabels c
      use name, run, name?, flags?, rfl

end Stage

/-! ### Runs -/

/-- Relations between the members of lists that compose do so member by member. -/
theorem forall₂_trans
    {α : Type} {R S T : α → α → Prop} {l l' l'' : List α}
    (hR : List.Forall₂ R l l') (hS : List.Forall₂ S l' l'')
    (h : ∀ {a b c}, R a b → S b c → T a c) :
  List.Forall₂ T l l''
  := by
  induction hR generalizing l'' with
  | nil =>
    cases hS
    apply List.Forall₂.nil
  | cons hab _ ih =>
    cases hS with
    | cons hbc hS => apply List.Forall₂.cons (h hab hbc) (ih hS)

/-- The value of a step made for each member of a list, each from the value of the one
before. -/
@[simp]
theorem Report.value_foldlM
    {α β : Type} (step : β → α → Report β) (l : List α) (b : β) :
  (l.foldlM step b).value = l.foldl (fun b a => (step b a).value) b
  := by
  induction l generalizing b with
  | nil => rfl
  | cons a l ih => simp [ih]

namespace Pipeline

@[simp]
theorem value_runStage
    (p : Pipeline) (c : Class) (stage : Stage) :
  (p.runStage c stage).value = (stage.run c).value
  := rfl

@[simp]
theorem anomalies_runStage
    (p : Pipeline) (c : Class) (stage : Stage) :
  (p.runStage c stage).anomalies = (stage.run c).anomalies
  := rfl

/-- The class after a run of a pipeline is the class after a run of its stages. -/
theorem value_transform
    (p : Pipeline) (c : Class) :
  (p.transform c).value = p.stages.foldl (fun c stage => (stage.run c).value) c
  := by
  simp [transform]

/-- Runs pipelines on a class, one after the other. -/
def transformInTurn (ps : List Pipeline) (c : Class) : Report Class :=
  ps.foldlM (fun c p => transform p c) c

/-- The class after pipelines in a row is the class after all their stages. -/
theorem value_transformInTurn
    (ps : List Pipeline) (c : Class) :
  (transformInTurn ps c).value
    = (ps.flatMap stages).foldl (fun c stage => (stage.run c).value) c
  := by
  rw [transformInTurn, Report.value_foldlM, List.foldl_flatMap]
  simp only [value_transform]

/-- The standard pipeline can be set up exactly when the host keeps annotable parameter
counts, and then it aligns and strips, with the verbosity of the configuration. -/
theorem standard_eq_ok_iff
    {config : Config} {p : Pipeline} :
  standard config = .ok p
    ↔ HostCapability.annotableParameterCount ∈ config.host
      ∧ p = ⟨config.verbose,
          [.alignAnnotations ⟨config.verbose⟩, .stripLocals ⟨config.verbose⟩]⟩
  := by
  rw [standard, AnnotationAligner.ofConfig]
  by_cases h : HostCapability.annotableParameterCount ∈ config.host
  · rw [if_pos h]
    constructor
    · intro hp
      use h
      apply (Except.ok.inj hp).symm
    · rintro ⟨-, rfl⟩
      rfl
  · rw [if_neg h]
    constructor
    · intro hp
      contradiction
    · rintro ⟨hhost, -⟩
      contradiction

/-- A host that keeps annotable parameter counts gets the standard pipeline. -/
theorem exists_standard
    {config : Config} (h : HostCapability.annotableParameterCount ∈ config.host) :
  ∃ p, standard config = .ok p
  := by
  use ⟨config.verbose, [.alignAnnotations ⟨config.verbose⟩, .stripLocals ⟨config.verbose⟩]⟩
  apply standard_eq_ok_iff.mpr ⟨h, rfl⟩

theorem isPass_of_standard
    {config : Config} {p : Pipeline} (h : standard config = .ok p) :
  ∀ stage ∈ p.stages, stage.IsPass
  := by
  obtain ⟨-, rfl⟩ := standard_eq_ok_iff.mp h
  simp [Stage.IsPass, Stage.isAligner, Stage.isStripper]

/-- The standard pipeline aligns and then strips. -/
theorem value_transform_of_standard
    {config : Config} {p : Pipeline} (h : standard config = .ok p) (c : Class) :
  (p.transform c).value = c.aligned.stripped
  := by
  obtain ⟨-, rfl⟩ := standard_eq_ok_iff.mp h
  simp [value_transform, Stage.run]

/-- The standard pipeline reports the anomalies of a class. -/
theorem anomalies_transform_of_standard
    {config : Config} {p : Pipeline} (h : standard config = .ok p) (c : Class) :
  (p.transform c).anomalies = c.anomalies
  := by
  obtain ⟨-, rfl⟩ := standard_eq_ok_iff.mp h
  simp [transform, Stage.run]

end Pipeline

end ClassFile
