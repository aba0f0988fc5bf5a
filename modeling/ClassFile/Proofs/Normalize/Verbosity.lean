import ClassFile.Proofs.Normalize.Stages

/-!
# Verbosity changes nothing but the log

A pipeline and each of its passes have a flag that says whether they log.  The flags make
no difference to the classes and the anomalies, and each flag decides about the events of
its own component only: the log of a run is the log of the run with all flags on, without
the events of the components whose flag is off.

The runs of a pass are put together from notes and anomalies behind its flag
(`Report.Built`).  These have the property and keep it in sequence (`Report.Gated`).  To
speak of the components, the events of a run are listed together with the component that
logs them (`Pipeline.emissions`).
-/

namespace ClassFile

/-! ### Steps behind one flag -/

namespace Report

variable {α β : Type}

/-- The report with its events if `verbose` holds, and without them otherwise. -/
def gate (verbose : Bool) (r : Report α) : Report α :=
  { r with log := if verbose then r.log else [] }

/-- A step that depends on a flag is gated when the flag decides about its events and about
nothing else. -/
def Gated (r : Bool → Report α) : Prop := ∀ verbose, r verbose = (r true).gate verbose

theorem gated_pure
    (a : α) :
  Gated fun _ => (pure a : Report α)
  := by
  intro verbose
  cases verbose <;> rfl

theorem gated_note
    (event : Event) :
  Gated fun verbose => note verbose event
  := by
  intro verbose
  cases verbose <;> rfl

theorem gated_raise
    (anomaly : Anomaly) :
  Gated fun verbose => raise verbose anomaly
  := by
  intro verbose
  cases verbose <;> rfl

theorem gate_bind
    (verbose : Bool) (r : Report α) (next : α → Report β) :
  (r >>= next).gate verbose = r.gate verbose >>= fun a => (next a).gate verbose
  := by
  cases verbose <;> rfl

/-- Gated steps in sequence, behind the same flag, are gated. -/
theorem Gated.bind
    {r : Bool → Report α} {next : Bool → α → Report β}
    (h : Gated r) (h' : ∀ a, Gated fun verbose => next verbose a) :
  Gated fun verbose => r verbose >>= next verbose
  := by
  intro verbose
  have hnext : next verbose = fun a => (next true a).gate verbose := by
    funext a
    apply h'
  rw [gate_bind, ← h, ← hnext]

/-- The steps that a pass is made of: notes that are no warnings and anomalies, all behind
the flag of the pass, and steps of this kind in sequence. -/
inductive Built : {α : Type} → (Bool → Report α) → Prop
  | pure {α : Type} (a : α) : Built fun _ => Pure.pure a
  | note (event : Event) (h : event.level ≠ .warn) : Built fun verbose => note verbose event
  | raise (anomaly : Anomaly) : Built fun verbose => raise verbose anomaly
  | bind {α β : Type} {r : Bool → Report α} {next : Bool → α → Report β}
      (h : Built r) (h' : ∀ a, Built fun verbose => next verbose a) :
      Built fun verbose => r verbose >>= next verbose

/-- A step of this kind made for each member of a list is of this kind. -/
theorem Built.mapM
    {step : Bool → α → Report β} (h : ∀ a, Built fun verbose => step verbose a) (l : List α) :
  Built fun verbose => l.mapM (step verbose)
  := by
  induction l with
  | nil => apply Built.pure
  | cons a l ih =>
    simp only [List.mapM_cons]
    apply Built.bind (h a)
    intro b
    apply Built.bind ih
    intro bs
    apply Built.pure

/-- The flag of a pass decides about the events of its steps and about nothing else. -/
theorem Built.gated
    {r : Bool → Report α} (h : Built r) :
  Gated r
  := by
  induction h with
  | pure a => apply gated_pure
  | note event _ => apply gated_note
  | raise anomaly => apply gated_raise
  | bind _ _ ih ih' => apply Gated.bind ih ih'

end Report

/-! ### Passes -/

namespace AnnotationAligner

open Report

theorem built_noteLength
    (m : MethodRef) (v : Visibility) (n s k : Nat) :
  Built fun verbose => (mk verbose).noteLength m v n s k
  := by
  simp only [noteLength]
  split
  · apply Built.note
    simp [Event.level]
  · split
    · apply Built.note
      simp [Event.level]
    · apply Built.pure

theorem built_checkLength
    (m : MethodRef) (v : Visibility) (n s k k' : Nat) :
  Built fun verbose => (mk verbose).checkLength m v n s k k'
  := by
  simp only [checkLength]
  split
  · apply Built.pure
  · apply Built.raise

theorem built_align
    (m : MethodRef) (v : Visibility) (n s : Nat) (a : ParameterAnnotations) :
  Built fun verbose => (mk verbose).align m v n s a
  := by
  apply Built.bind
  · cases a.lists with
    | none =>
      apply Built.note
      simp [Event.level]
    | some lists =>
      apply Built.bind
      · apply built_noteLength
      · intro _
        apply built_checkLength
  · intro _
    apply Built.pure

theorem built_alignConstructor
    (synthetic : List FieldType) (m : Method) :
  Built fun verbose => (mk verbose).alignConstructor synthetic m
  := by
  simp only [alignConstructor]
  split
  · apply Built.bind (built_align _ _ _ _ _)
    intro visible
    apply Built.bind (built_align _ _ _ _ _)
    intro invisible
    apply Built.pure
  · apply Built.bind (Built.raise _)
    intro _
    apply Built.pure

/-- A run of the aligner is put together from notes and anomalies behind its flag. -/
theorem built_run
    (c : Class) :
  Built fun verbose => (mk verbose).run c
  := by
  apply Built.bind
  · apply Built.note
    simp [Event.level]
  · intro _
    cases c.expectedSyntheticParameters with
    | none => apply Built.pure
    | some synthetic =>
      apply Built.bind
      · apply Built.mapM
        intro m
        simp only [alignMethod]
        split
        · apply built_alignConstructor
        · apply Built.pure
      · intro methods
        apply Built.pure

end AnnotationAligner

namespace LocalVariableStripper

open Report

/-- A run of the stripper is put together from notes behind its flag. -/
theorem built_run
    (c : Class) :
  Built fun verbose => (mk verbose).run c
  := by
  apply Built.bind
  · apply Built.mapM
    intro m
    apply Built.bind
    · cases m.body.bind MethodBody.namedVariables? with
      | none => apply Built.pure
      | some table =>
        apply Built.note
        simp [Event.level]
    · intro _
      apply Built.pure
  · intro methods
    apply Built.pure

end LocalVariableStripper

/-! ### Stages -/

namespace Stage

/-- The stage with the flag of its pass set.  A stage of the host has no flag. -/
def withVerbosity (verbose : Bool) : Stage → Stage
  | alignAnnotations _ => alignAnnotations ⟨verbose⟩
  | stripLocals _ => stripLocals ⟨verbose⟩
  | host name run => host name run

/-- The flag of the pass of a stage. -/
def verbose : Stage → Bool
  | alignAnnotations pass => pass.verbose
  | stripLocals pass => pass.verbose
  | host _ _ => false

/-- A stage is silent when it logs nothing, whatever the class. -/
def Silent (stage : Stage) : Prop := ∀ c, (stage.run c).log = []

theorem withVerbosity_verbose
    (stage : Stage) :
  stage.withVerbosity stage.verbose = stage
  := by
  cases stage <;> rfl

@[simp]
theorem name_withVerbosity
    (verbose : Bool) (stage : Stage) :
  (stage.withVerbosity verbose).name = stage.name
  := by
  cases stage <;> rfl

@[simp]
theorem value_run_withVerbosity
    (verbose : Bool) (stage : Stage) (c : Class) :
  ((stage.withVerbosity verbose).run c).value = (stage.run c).value
  := by
  cases stage <;> simp [withVerbosity, run]

@[simp]
theorem anomalies_run_withVerbosity
    (verbose : Bool) (stage : Stage) (c : Class) :
  ((stage.withVerbosity verbose).run c).anomalies = (stage.run c).anomalies
  := by
  cases stage <;> simp [withVerbosity, run]

/-- The flag of a stage decides about all its events. -/
theorem log_run_withVerbosity
    {stage : Stage} (h : stage.IsPass ∨ stage.Silent) (verbose : Bool) (c : Class) :
  ((stage.withVerbosity verbose).run c).log
    = if verbose then ((stage.withVerbosity true).run c).log else []
  := by
  cases stage with
  | alignAnnotations pass =>
    apply congrArg Report.log ((AnnotationAligner.built_run c).gated verbose)
  | stripLocals pass =>
    apply congrArg Report.log ((LocalVariableStripper.built_run c).gated verbose)
  | host name run =>
    obtain hpass | hsilent := h
    · simp [IsPass, isAligner, isStripper] at hpass
    · have hlog : ((host name run).run c).log = [] := hsilent c
      rw [withVerbosity, withVerbosity, hlog, ite_self]

end Stage

/-! ### Components of a pipeline -/

/-- The parts of a pipeline that log. -/
inductive Component where
  /-- The pipeline itself, which logs the stages it runs. -/
  | pipeline
  /-- The stage at a position. -/
  | stage (position : Nat)
deriving DecidableEq, Repr

namespace Pipeline

/-- The pipeline with all flags set to the same value. -/
def withVerbosity (verbose : Bool) (p : Pipeline) : Pipeline where
  verbose := verbose
  stages := p.stages.map (Stage.withVerbosity verbose)

/-- The flag of a component of a pipeline. -/
def flag (p : Pipeline) : Component → Bool
  | .pipeline => p.verbose
  | .stage position => p.stages[position]?.elim false Stage.verbose

/-- The events that a pipeline and its stages log about a class, each with the component
that logs it.  The positions of the stages are counted from `first` on. -/
def emissionsFrom (p : Pipeline) (first : Nat) :
    List Stage → Class → List (Component × Event)
  | [], _ => []
  | stage :: stages, c =>
    (Report.note p.verbose (.running stage.name c.name)).log.map (Component.pipeline, ·)
      ++ (stage.run c).log.map (Component.stage first, ·)
      ++ p.emissionsFrom (first + 1) stages (stage.run c).value

/-- The events of a run on a class, each with the component that logs it. -/
def emissions (p : Pipeline) (c : Class) : List (Component × Event) :=
  p.emissionsFrom 0 p.stages c

variable (p : Pipeline)

/-- Without the components, the events of a run are its log. -/
theorem map_snd_emissionsFrom
    (first : Nat) (stages : List Stage) (c : Class) :
  (p.emissionsFrom first stages c).map Prod.snd = (stages.foldlM p.runStage c).log
  := by
  induction stages generalizing first c with
  | nil => rfl
  | cons stage stages ih =>
    rw [List.foldlM_cons, Report.log_bind, value_runStage, ← ih (first + 1)]
    simp [emissionsFrom, runStage, Function.comp_def]

/-- Events of one component are kept all or not at all. -/
theorem filter_map_component
    (on : Component → Bool) (component : Component) (events : List Event) :
  ((events.map (component, ·)).filter fun e => on e.1)
    = if on component then events.map (component, ·) else []
  := by
  split
  · next h =>
    apply List.filter_eq_self.mpr
    intro e he
    obtain ⟨event, -, rfl⟩ := List.mem_map.mp he
    apply h
  · next h =>
    apply List.filter_eq_nil_iff.mpr
    intro e he
    obtain ⟨event, -, rfl⟩ := List.mem_map.mp he
    apply h

/-- The flag of the pipeline decides about its own events. -/
theorem note_eq_filter
    (event : Event) :
  (Report.note p.verbose event).log.map (Component.pipeline, ·)
    = ((Report.note true event).log.map (Component.pipeline, ·)).filter fun e => p.flag e.1
  := by
  rw [filter_map_component, flag]
  cases p.verbose <;> rfl

/-- The flag of the stage at a position decides about its events. -/
theorem run_eq_filter
    {stage : Stage} (hkind : stage.IsPass ∨ stage.Silent)
    {position : Nat} (hposition : p.stages[position]? = some stage) (c : Class) :
  (stage.run c).log.map (Component.stage position, ·)
    = (((stage.withVerbosity true).run c).log.map (Component.stage position, ·)).filter
        fun e => p.flag e.1
  := by
  have hflag : p.flag (.stage position) = stage.verbose := by
    rw [flag, hposition, Option.elim_some]
  have hlog := Stage.log_run_withVerbosity hkind stage.verbose c
  rw [Stage.withVerbosity_verbose] at hlog
  rw [filter_map_component, hflag, hlog]
  split <;> rfl

/-- The events of stages are those with all flags on, without the events of the components
whose flag is off. -/
theorem emissionsFrom_eq_filter
    {first : Nat} {stages : List Stage}
    (hstages : ∀ i, p.stages[first + i]? = stages[i]?)
    (hkinds : ∀ stage ∈ stages, stage.IsPass ∨ stage.Silent) (c : Class) :
  p.emissionsFrom first stages c
    = ((p.withVerbosity true).emissionsFrom first (stages.map (Stage.withVerbosity true)) c).filter
        fun e => p.flag e.1
  := by
  -- The stages are those of the pipeline from the position `first` on, so that the flag of
  -- a position is the flag of the stage.
  induction stages generalizing first c with
  | nil => rfl
  | cons stage stages ih =>
    obtain ⟨hkind, hkinds⟩ := List.forall_mem_cons.mp hkinds
    have hfirst : p.stages[first]? = some stage := hstages 0
    have hrest : ∀ i, p.stages[first + 1 + i]? = stages[i]? := by
      intro i
      rw [Nat.add_right_comm, Nat.add_assoc, hstages, List.getElem?_cons_succ]
    rw [List.map_cons, emissionsFrom, emissionsFrom, List.filter_append, List.filter_append,
      Stage.value_run_withVerbosity, Stage.name_withVerbosity, ← ih hrest hkinds,
      ← p.run_eq_filter hkind hfirst, note_eq_filter]
    rfl

/-! ### Runs -/

theorem value_transform_withVerbosity
    (verbose : Bool) (c : Class) :
  ((p.withVerbosity verbose).transform c).value = (p.transform c).value
  := by
  rw [value_transform, value_transform, withVerbosity, List.foldl_map]
  simp only [Stage.value_run_withVerbosity]

/-- Neither the flags of the stages nor that of the pipeline that runs them make a
difference to the anomalies. -/
theorem anomalies_foldlM_withVerbosity
    (q : Pipeline) (verbose : Bool) (stages : List Stage) (c : Class) :
  ((stages.map (Stage.withVerbosity verbose)).foldlM q.runStage c).anomalies
    = (stages.foldlM p.runStage c).anomalies
  := by
  induction stages generalizing c with
  | nil => rfl
  | cons stage stages ih => simp [ih]

theorem anomalies_transform_withVerbosity
    (verbose : Bool) (c : Class) :
  ((p.withVerbosity verbose).transform c).anomalies = (p.transform c).anomalies
  := p.anomalies_foldlM_withVerbosity _ verbose p.stages c

/-- With all flags off nothing is logged. -/
theorem log_foldlM_withVerbosity_false
    (hquiet : p.verbose = false) {stages : List Stage}
    (hkinds : ∀ stage ∈ stages, stage.IsPass ∨ stage.Silent) (c : Class) :
  ((stages.map (Stage.withVerbosity false)).foldlM p.runStage c).log = []
  := by
  induction stages generalizing c with
  | nil => rfl
  | cons stage stages ih =>
    obtain ⟨hkind, hkinds⟩ := List.forall_mem_cons.mp hkinds
    have hlog := Stage.log_run_withVerbosity hkind false c
    simp [runStage, hquiet, hlog, ih hkinds]

end Pipeline

/-- The relation of a report to the same run with all flags off and with all flags on, if
`on` gives the flags of the components.  With all flags off the value and the anomalies
are the same and the log is empty.  With all flags on the log has certain events, given
with their components, and the report has those of them whose component has its flag
on. -/
structure Report.Restricts {α : Type} (on : Component → Bool) (report off loud : Report α)
    (emissions : List (Component × Event)) : Prop where
  value : report.value = off.value
  anomalies : report.anomalies = off.anomalies
  log_off : off.log = []
  log_loud : loud.log = emissions.map Prod.snd
  log : report.log = (emissions.filter fun e => on e.1).map Prod.snd

/-- The relation holds of a run for each member of a list if it holds of each of them. -/
theorem Report.Restricts.mapM
    {α β : Type} {on : Component → Bool} {step off loud : α → Report β}
    {emissions : α → List (Component × Event)}
    (h : ∀ a, Restricts on (step a) (off a) (loud a) (emissions a)) (l : List α) :
  Restricts on (l.mapM step) (l.mapM off) (l.mapM loud) (l.flatMap emissions)
  := by
  constructor
  · simp only [value_mapM, (h _).value]
  · simp only [anomalies_mapM, (h _).anomalies]
  · rw [log_mapM, List.flatMap_eq_nil_iff]
    intro a _
    apply (h a).log_off
  · simp only [log_mapM, List.map_flatMap, (h _).log_loud]
  · simp only [log_mapM, List.filter_flatMap, List.map_flatMap, (h _).log]

namespace Pipeline

variable {p : Pipeline}

theorem restricts_transform
    (hp : ∀ stage ∈ p.stages, stage.IsPass ∨ stage.Silent) (c : Class) :
  Report.Restricts p.flag (p.transform c) ((p.withVerbosity false).transform c)
    ((p.withVerbosity true).transform c) ((p.withVerbosity true).emissions c)
  := by
  have hstages : ∀ i, p.stages[0 + i]? = p.stages[i]? := by
    intro i
    rw [Nat.zero_add]
  constructor
  · rw [value_transform_withVerbosity]
  · rw [anomalies_transform_withVerbosity]
  · apply (p.withVerbosity false).log_foldlM_withVerbosity_false rfl hp
  · rw [transform, emissions, map_snd_emissionsFrom]
  · rw [transform, ← p.map_snd_emissionsFrom 0, p.emissionsFrom_eq_filter hstages hp]
    rfl

end Pipeline

/-- In a pipeline of aligners, strippers and silent stages of the host the flags make no
difference to the classes and the anomalies, neither of a run on one class nor of a run on
several in turn.  The log is that of the run with all flags on, without the events of the
components whose flag is off, and it is empty with all flags off. -/
theorem Pipeline.verbosity_restricts_log
    (p : Pipeline) (hp : ∀ stage ∈ p.stages, stage.IsPass ∨ stage.Silent) :
  (∀ c, Report.Restricts p.flag (p.transform c) ((p.withVerbosity false).transform c)
      ((p.withVerbosity true).transform c) ((p.withVerbosity true).emissions c))
    ∧ ∀ cs, Report.Restricts p.flag (p.transformAll cs)
        ((p.withVerbosity false).transformAll cs) ((p.withVerbosity true).transformAll cs)
        (cs.flatMap (p.withVerbosity true).emissions)
  := by
  constructor
  · apply restricts_transform hp
  · apply Report.Restricts.mapM (restricts_transform hp)

/-- The pipeline itself and the stripper log, and the aligner does not.  The class gets
another name between the two passes. -/
theorem Pipeline.verbosity_restricts_log_planet :
  let p : Pipeline :=
    ⟨true, [.alignAnnotations ⟨false⟩, .relabel "host" (some ⟨"Moon"⟩) none,
      .stripLocals ⟨true⟩]⟩
  (∀ stage ∈ p.stages, stage.IsPass ∨ stage.Silent)
    ∧ Report.Restricts p.flag (p.transform .planet)
        ((p.withVerbosity false).transform .planet) ((p.withVerbosity true).transform .planet)
        ((p.withVerbosity true).emissions .planet)
    ∧ (p.transform .planet).log
      = [.running "parameter-annotations" ⟨"Planet"⟩, .running "host" ⟨"Planet"⟩,
          .running "local-variable-table" ⟨"Moon"⟩,
          .tableRemoved ⟨⟨"Planet"⟩, "<init>",
            ⟨[.string, .base .int, .base .double], .void⟩⟩ 1]
    ∧ ((p.withVerbosity true).transform .planet).log.length = 7
  := by
  intro p
  have hp : ∀ stage ∈ p.stages, stage.IsPass ∨ stage.Silent := by
    simp [p, Stage.IsPass, Stage.isAligner, Stage.isStripper, Stage.Silent, Stage.relabel,
      Stage.run]
  obtain ⟨hplanet, -⟩ := Pipeline.verbosity_restricts_log p hp
  exact ⟨hp, hplanet .planet, rfl, rfl⟩

end ClassFile
