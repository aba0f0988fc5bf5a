import ClassFile.Proofs.Normalize.Schedules
import ClassFile.Proofs.Normalize.Verbosity

/-!
# Every anomaly is warned of once

An anomaly is reported to the caller and, by a pass that logs, also written to the log as
a warning.  A report is candid when the warnings in its log are the anomalies it reports,
each of them once and in the same order.

Candid reports are closed under sequence, and the notes of a pass are never warnings.  So
a run of stages is candid if its aligners log and the host stays out of it.  When classes
are processed side by side the warnings of one class may come between those of another,
and nothing else is different.
-/

namespace ClassFile

/-- The texts of the warnings in a log, in order. -/
def Event.warnings (log : List Event) : List String :=
  (log.filter fun e => e.level = .warn).map text

/-- Logs with the same events have the same warnings. -/
theorem Event.warnings_perm
    {log log' : List Event} (h : log.Perm log') :
  (warnings log).Perm (warnings log')
  := by
  apply List.Perm.map
  apply h.filter

/-! ### Candid reports -/

namespace Report

variable {α β : Type}

/-- A report is candid when the warnings in its log are its anomalies, in order. -/
def Candid (r : Report α) : Prop :=
  (r.log.filter fun e => e.level = .warn) = r.anomalies.map .found

/-- A report without events and without anomalies is candid. -/
theorem candid_of_nil
    {r : Report α} (hlog : r.log = []) (hanomalies : r.anomalies = []) :
  r.Candid
  := by
  rw [Candid, hlog, hanomalies]
  rfl

theorem candid_note
    (verbose : Bool) {event : Event} (h : event.level ≠ .warn) :
  (note verbose event).Candid
  := by
  cases verbose with
  | false => apply candid_of_nil rfl rfl
  | true => simp [Candid, h]

theorem candid_raise
    (anomaly : Anomaly) :
  (raise true anomaly).Candid
  := rfl

/-- Candid steps in sequence are candid. -/
theorem Candid.bind
    {r : Report α} {next : α → Report β} (h : r.Candid) (h' : ∀ a, (next a).Candid) :
  (r >>= next).Candid
  := by
  rw [Candid, log_bind, anomalies_bind, List.filter_append, List.map_append, h, h']

/-- A candid step made for each member of a list is candid. -/
theorem Candid.mapM
    {step : α → Report β} (h : ∀ a, (step a).Candid) (l : List α) :
  (l.mapM step).Candid
  := by
  rw [Candid, log_mapM, anomalies_mapM, List.filter_flatMap, List.map_flatMap]
  congr 1
  funext a
  apply h

/-- A pass that logs is candid. -/
theorem Built.candid
    {r : Bool → Report α} (h : Built r) :
  (r true).Candid
  := by
  induction h with
  | pure a => apply candid_of_nil rfl rfl
  | note event h => apply candid_note true h
  | raise anomaly => apply candid_raise
  | bind _ _ ih ih' => apply Candid.bind ih ih'

/-- The texts of the warnings in a candid report are those of its anomalies. -/
theorem Candid.warnings_log
    {r : Report α} (h : r.Candid) :
  Event.warnings r.log = r.anomalies.map Anomaly.message
  := by
  rw [Event.warnings, h, List.map_map]
  rfl

end Report

/-! ### Stages and pipelines -/

/-- A stage is candid when it is an aligner that logs, a stripper, or a stage of the host
that logs nothing and finds no anomaly. -/
def Stage.Candid : Stage → Prop
  | alignAnnotations pass => pass.verbose = true
  | stripLocals _ => True
  | host _ run => ∀ c, (run c).log = [] ∧ (run c).anomalies = []

/-- A candid stage reports candidly of every class. -/
theorem Stage.Candid.run
    {stage : Stage} (h : stage.Candid) (c : Class) :
  (stage.run c).Candid
  := by
  cases stage with
  | alignAnnotations pass =>
    obtain ⟨verbose⟩ := pass
    obtain rfl : verbose = true := h
    apply (AnnotationAligner.built_run c).candid
  | stripLocals pass =>
    obtain ⟨verbose⟩ := pass
    cases verbose with
    | true => apply (LocalVariableStripper.built_run c).candid
    | false =>
      -- A stripper finds no anomaly, so it has nothing to conceal.
      apply Report.candid_of_nil
      · apply congrArg Report.log ((LocalVariableStripper.built_run c).gated false)
      · apply LocalVariableStripper.anomalies_run
  | host name run =>
    obtain ⟨hlog, hanomalies⟩ := h c
    apply Report.candid_of_nil hlog hanomalies

namespace Pipeline

variable {p : Pipeline}

/-- A run of candid stages is candid, whether or not the pipeline logs which stages it
runs. -/
theorem candid_foldlM
    (p : Pipeline) {stages : List Stage} (h : ∀ stage ∈ stages, stage.Candid) (c : Class) :
  (stages.foldlM p.runStage c).Candid
  := by
  induction stages generalizing c with
  | nil => apply Report.candid_of_nil rfl rfl
  | cons stage stages ih =>
    obtain ⟨hstage, hstages⟩ := List.forall_mem_cons.mp h
    rw [List.foldlM_cons]
    apply Report.Candid.bind
    · apply Report.Candid.bind
      · apply Report.candid_note
        simp [Event.level]
      · intro _
        apply hstage.run
    · intro c
      apply ih hstages

theorem candid_transformAll
    (h : ∀ stage ∈ p.stages, stage.Candid) (cs : List Class) :
  (p.transformAll cs).Candid
  := by
  apply Report.Candid.mapM
  intro c
  apply p.candid_foldlM h

end Pipeline

/-- In a run of a pipeline on classes in turn, with aligners that log, strippers, and
stages of the host that log nothing and find no anomaly, the texts of the warnings are
those of the anomalies, in order.  If the classes are processed side by side the anomalies
are the same and the warnings are a permutation of their texts, whatever the schedule of
the stages, and even if the events of different classes are interleaved one by one. -/
theorem Pipeline.warnings_tell_anomalies
    (p : Pipeline) (hp : ∀ stage ∈ p.stages, stage.Candid) (cs : List Class) :
  Event.warnings (p.transformAll cs).log
      = (p.transformAll cs).anomalies.map Anomaly.message
    ∧ (∀ schedule : List Nat, (∀ i < cs.length, p.stages.length ≤ schedule.count i) →
        (p.transformScheduled schedule cs).anomalies = (p.transformAll cs).anomalies
          ∧ (Event.warnings (p.transformScheduled schedule cs).log).Perm
              ((p.transformScheduled schedule cs).anomalies.map Anomaly.message))
    ∧ ∀ log : List (Nat × Event),
        (∀ i, Batch.eventsFrom i log = Batch.eventsFrom i (p.numberedLog cs)) →
        (Event.warnings (log.map Prod.snd)).Perm
          ((p.transformAll cs).anomalies.map Anomaly.message)
  := by
  have hturn := (candid_transformAll hp cs).warnings_log
  use hturn
  constructor
  · intro schedule hturns
    have hfinished := (Batch.finished_run_start_iff p).mpr hturns
    use anomalies_transformScheduled hfinished
    rw [anomalies_transformScheduled hfinished, ← hturn]
    apply Event.warnings_perm (log_transformScheduled_perm hfinished)
  · intro log hlog
    rw [← hturn, ← map_snd_numberedLog]
    apply Event.warnings_perm
    apply (Batch.perm_of_eventsFrom hlog).map

/-- A class with a list of unexpected length and one whose constructor lacks the enclosing
instance.  The second class is the first to be aligned, so its warning comes first, and it
does so too if all its events are logged before those of the other class. -/
theorem Pipeline.warnings_tell_anomalies_planet :
  let p : Pipeline :=
    ⟨true, [.alignAnnotations ⟨true⟩, .relabel "host" (some ⟨"Moon"⟩) none,
      .stripLocals ⟨true⟩]⟩
  let moon : Class :=
    { Class.planet with
      flags := ∅
      innerClasses := [⟨⟨"Planet"⟩, some ⟨"Sun"⟩, some "Planet", ∅⟩] }
  let cs : List Class := [.planet, moon]
  let schedule : List Nat := [1, 0, 0, 1, 1, 0]
  let log : List (Nat × Event) :=
    (p.transform moon).log.map (1, ·) ++ (p.transform .planet).log.map (0, ·)
  let constructor : MethodRef :=
    ⟨⟨"Planet"⟩, "<init>", ⟨[.string, .base .int, .base .double], .void⟩⟩
  let found : List Anomaly :=
    [.unexpectedCount constructor .invisible 2, .missingSynthetic constructor [.object ⟨"Sun"⟩]]
  (∀ stage ∈ p.stages, stage.Candid)
    ∧ (∀ i < cs.length, p.stages.length ≤ schedule.count i)
    ∧ (∀ i, Batch.eventsFrom i log = Batch.eventsFrom i (p.numberedLog cs))
    ∧ Event.warnings (p.transformAll cs).log = found.map Anomaly.message
    ∧ (Event.warnings (p.transformScheduled schedule cs).log).Perm
        (found.map Anomaly.message)
    ∧ (Event.warnings (log.map Prod.snd)).Perm (found.map Anomaly.message)
  := by
  intro p moon cs schedule log constructor found
  have hp : ∀ stage ∈ p.stages, stage.Candid := by
    simp [p, Stage.Candid, Stage.relabel]
  have hturns : ∀ i < cs.length, p.stages.length ≤ schedule.count i := by decide
  have hlog : ∀ i, Batch.eventsFrom i log = Batch.eventsFrom i (p.numberedLog cs) := by
    intro i
    rw [eventsFrom_numberedLog]
    obtain _ | _ | i := i
    · simp [log, cs]
    · simp [log, cs]
    · simp [log, cs]
  have hfound : (p.transformAll cs).anomalies = found := by decide
  obtain ⟨hturn, hscheduled, hinterleaved⟩ := Pipeline.warnings_tell_anomalies p hp cs
  obtain ⟨hanomalies, hperm⟩ := hscheduled schedule hturns
  rw [hanomalies] at hperm
  rw [hfound] at hturn hperm hinterleaved
  exact ⟨hp, hturns, hlog, hturn, hperm, hinterleaved log hlog⟩

end ClassFile
