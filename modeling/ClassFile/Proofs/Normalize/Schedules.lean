import ClassFile.Normalize.Batch
import ClassFile.Proofs.Normalize.Stages
import Mathlib.Data.List.Basic

/-!
# Every schedule gives the result of the classes in turn

However the jobs of a batch are interleaved, the outlook of each job stays the same: the
report of what it has done so far followed by what it has still to do.  At the start the
outlook of a job is the run of the pipeline on its class, and at the end it is what the
job has done.

Hence the classes and the anomalies do not depend on the schedule, and neither do the
events of a job among themselves.  The events of different jobs may change places, so the
log as a whole is determined up to a permutation.
-/

namespace ClassFile

/-! ### Numbered events -/

namespace Batch

/-- The events with the number `i`, in order. -/
def eventsFrom (i : Nat) (log : List (Nat × Event)) : List Event :=
  (log.filter fun e => e.1 = i).map Prod.snd

/-- The events of several logs one after the other, each with the number of its log.  The
logs are numbered from `first` on. -/
def numbered (first : Nat) : List (List Event) → List (Nat × Event)
  | [] => []
  | log :: logs => log.map (first, ·) ++ numbered (first + 1) logs

theorem eventsFrom_cons
    (i k : Nat) (event : Event) (log : List (Nat × Event)) :
  eventsFrom i ((k, event) :: log) = (if k = i then [event] else []) ++ eventsFrom i log
  := by
  rw [eventsFrom, List.filter_cons]
  by_cases h : k = i <;> simp [h, eventsFrom]

@[simp]
theorem eventsFrom_append
    (i : Nat) (log log' : List (Nat × Event)) :
  eventsFrom i (log ++ log') = eventsFrom i log ++ eventsFrom i log'
  := by
  simp [eventsFrom]

/-- Of events that all have the same number, either all or none have the number `i`. -/
@[simp]
theorem eventsFrom_map
    (i k : Nat) (events : List Event) :
  eventsFrom i (events.map (k, ·)) = if k = i then events else []
  := by
  rw [eventsFrom, List.filter_map, List.map_map]
  by_cases h : k = i <;> simp [Function.comp_def, h]

/-- An event occurs as often among those with its number as in the whole log. -/
theorem count_eventsFrom
    (i : Nat) (event : Event) (log : List (Nat × Event)) :
  (eventsFrom i log).count event = log.count (i, event)
  := by
  induction log with
  | nil => rfl
  | cons e log ih =>
    obtain ⟨k, event'⟩ := e
    rw [eventsFrom_cons, List.count_append, ih, List.count_cons]
    by_cases h : k = i <;> simp [h, List.count_cons, Nat.add_comm]

/-- Logs in which the events with each number are the same are permutations of each
other. -/
theorem perm_of_eventsFrom
    {log log' : List (Nat × Event)} (h : ∀ i, eventsFrom i log = eventsFrom i log') :
  log.Perm log'
  := by
  apply List.perm_iff_count.mpr
  rintro ⟨i, event⟩
  rw [← count_eventsFrom, ← count_eventsFrom, h]

/-- There are no events with a number before the first one. -/
theorem eventsFrom_numbered_of_lt
    {i first : Nat} (h : i < first) (logs : List (List Event)) :
  eventsFrom i (numbered first logs) = []
  := by
  induction logs generalizing first with
  | nil => rfl
  | cons log logs ih =>
    rw [numbered, eventsFrom_append, eventsFrom_map, if_neg (Nat.ne_of_gt h), List.nil_append,
      ih (Nat.lt_succ_of_lt h)]

/-- The events with a number are the log that has it. -/
theorem eventsFrom_numbered
    (i first : Nat) (logs : List (List Event)) :
  eventsFrom (first + i) (numbered first logs) = logs[i]?.getD []
  := by
  induction logs generalizing i first with
  | nil => rfl
  | cons log logs ih =>
    rw [numbered, eventsFrom_append, eventsFrom_map]
    cases i with
    | zero => simp [eventsFrom_numbered_of_lt (Nat.lt_succ_self first)]
    | succ i =>
      have hne : first ≠ first + (i + 1) := by omega
      have hadd : first + (i + 1) = first + 1 + i := by omega
      rw [if_neg hne, List.nil_append, hadd, ih, List.getElem?_cons_succ]

/-- Without the numbers there are just the logs one after the other. -/
theorem map_snd_numbered
    (first : Nat) (logs : List (List Event)) :
  (numbered first logs).map Prod.snd = logs.flatten
  := by
  induction logs generalizing first with
  | nil => rfl
  | cons log logs ih => simp [numbered, ih, Function.comp_def]

end Batch

/-! ### Steps -/

namespace Job

/-- The report of a job at its end, if it has logged the given events so far: what it has
done, followed by what it has still to do. -/
def outlook (p : Pipeline) (log : List Event) (j : Job) : Report Class :=
  (⟨j.subject, j.anomalies, log⟩ : Report Class) >>= fun c => j.pending.foldlM p.runStage c

/-- A job has done a stage more after a step, and the outlook is the same. -/
theorem outlook_step
    (p : Pipeline) (log : List Event) (j : Job) :
  (j.step p).1.outlook p (log ++ (j.step p).2) = j.outlook p log
  := by
  obtain ⟨subject, pending, anomalies⟩ := j
  cases pending with
  | nil => simp [step]
  | cons stage pending =>
    -- The stage is moved from what is to be done to what was done.
    apply Report.ext
    · simp [outlook, step]
    · simp [outlook, step, List.append_assoc]
    · simp [outlook, step, List.append_assoc]

theorem outlook_of_done
    {j : Job} (h : j.pending = []) (p : Pipeline) (log : List Event) :
  j.outlook p log = ⟨j.subject, j.anomalies, log⟩
  := by
  rw [outlook, h]
  apply bind_pure

theorem pending_step
    (p : Pipeline) (j : Job) :
  (j.step p).1.pending = j.pending.tail
  := by
  obtain ⟨subject, pending, anomalies⟩ := j
  cases pending <;> rfl

end Job

namespace Batch

variable (p : Pipeline)

/-- A step changes one job at most. -/
theorem getElem?_jobs_step
    (b : Batch) (i k : Nat) :
  (b.step p i).jobs[k]? = b.jobs[k]?.map fun j => if i = k then (j.step p).1 else j
  := by
  rw [step]
  by_cases h : i = k
  · subst h
    cases hj : b.jobs[i]? with
    | none => simp [hj]
    | some j => simp [(List.getElem?_eq_some_iff.mp hj).1]
  · cases b.jobs[i]? <;> simp [h]

/-- A step logs events of one job at most. -/
theorem eventsFrom_step
    (b : Batch) (i k : Nat) :
  eventsFrom k (b.step p i).log
    = eventsFrom k b.log
      ++ (b.jobs[k]?.elim [] fun j => if i = k then (j.step p).2 else [])
  := by
  rw [step]
  by_cases h : i = k
  · subst h
    cases b.jobs[i]? <;> simp
  · cases b.jobs[i]? <;> cases b.jobs[k]? <;> simp [h]

/-- The outlooks of all jobs. -/
def outlooks (b : Batch) : List (Report Class) :=
  b.jobs.mapIdx fun i j => j.outlook p (eventsFrom i b.log)

/-- A step changes no outlook. -/
theorem outlooks_step
    (b : Batch) (i : Nat) :
  (b.step p i).outlooks p = b.outlooks p
  := by
  apply List.ext_getElem?
  intro k
  rw [outlooks, outlooks, List.getElem?_mapIdx, List.getElem?_mapIdx, getElem?_jobs_step,
    eventsFrom_step]
  cases b.jobs[k]? with
  | none => rfl
  | some j => by_cases h : i = k <;> simp [h, Job.outlook_step]

/-! ### Runs -/

theorem run_cons
    (i : Nat) (schedule : List Nat) (b : Batch) :
  b.run p (i :: schedule) = (b.step p i).run p schedule
  := rfl

/-- A run changes no outlook. -/
theorem outlooks_run
    (schedule : List Nat) (b : Batch) :
  (b.run p schedule).outlooks p = b.outlooks p
  := by
  induction schedule generalizing b with
  | nil => rfl
  | cons i schedule ih =>
    rw [run_cons, ih, outlooks_step]

/-- A run logs no event of a job that is not there. -/
theorem eventsFrom_run_of_none
    (schedule : List Nat) {b : Batch} {k : Nat} (h : b.jobs[k]? = none) :
  eventsFrom k (b.run p schedule).log = eventsFrom k b.log
  := by
  induction schedule generalizing b with
  | nil => rfl
  | cons i schedule ih =>
    have hnone : (b.step p i).jobs[k]? = none := by rw [getElem?_jobs_step, h, Option.map_none]
    rw [run_cons, ih hnone, eventsFrom_step, h, Option.elim_none, List.append_nil]

/-- In a run each job does as many stages as the schedule has turns for it. -/
theorem pending_run
    (schedule : List Nat) (b : Batch) (k : Nat) :
  ((b.run p schedule).jobs[k]?).map Job.pending
    = b.jobs[k]?.map fun j => j.pending.drop (schedule.count k)
  := by
  induction schedule generalizing b with
  | nil => rfl
  | cons i schedule ih =>
    rw [run_cons, ih, getElem?_jobs_step, List.count_cons]
    cases b.jobs[k]? with
    | none => rfl
    | some j => by_cases h : i = k <;> simp [h, Job.pending_step]

theorem getElem?_jobs_start
    (cs : List Class) (k : Nat) :
  (start p cs).jobs[k]? = cs[k]?.map fun c => ⟨c, p.stages, []⟩
  := List.getElem?_map

/-- At the start the outlooks are the runs of the pipeline on the classes. -/
theorem outlooks_start
    (cs : List Class) :
  (start p cs).outlooks p = cs.map p.transform
  := by
  apply List.ext_getElem?
  intro k
  rw [outlooks, List.getElem?_mapIdx, getElem?_jobs_start, Option.map_map, List.getElem?_map]
  rfl

/-- What is left of the stages after a run. -/
theorem map_pending_run_start
    (schedule : List Nat) (cs : List Class) :
  ((start p cs).run p schedule).jobs.map Job.pending
    = cs.mapIdx fun i _ => p.stages.drop (schedule.count i)
  := by
  apply List.ext_getElem?
  intro k
  rw [List.getElem?_map, pending_run, getElem?_jobs_start, Option.map_map, List.getElem?_mapIdx]
  rfl

/-- A schedule finishes a batch exactly when it has a turn for each job and stage. -/
theorem finished_run_start_iff
    {schedule : List Nat} {cs : List Class} :
  ((start p cs).run p schedule).Finished
    ↔ ∀ i < cs.length, p.stages.length ≤ schedule.count i
  := by
  have hmap : ((start p cs).run p schedule).Finished
      ↔ ∀ stages ∈ ((start p cs).run p schedule).jobs.map Job.pending, stages = [] := by
    rw [List.forall_mem_map]
    rfl
  rw [hmap, map_pending_run_start]
  constructor
  · intro hnil i hi
    apply List.drop_eq_nil_iff.mp
    apply hnil
    apply List.mem_mapIdx.mpr
    use i, hi
  · intro hturns stages hstages
    obtain ⟨i, hi, rfl⟩ := List.mem_mapIdx.mp hstages
    apply List.drop_eq_nil_iff.mpr
    apply hturns i hi

variable {p} {schedule : List Nat} {cs : List Class}

/-- Each job of a finished batch has reported what the pipeline does with its class. -/
theorem map_jobs_of_finished
    (h : ((start p cs).run p schedule).Finished) (k : Nat) :
  (((start p cs).run p schedule).jobs[k]?.map fun j =>
      (⟨j.subject, j.anomalies, eventsFrom k ((start p cs).run p schedule).log⟩ : Report Class))
    = cs[k]?.map p.transform
  := by
  have houtlook : (((start p cs).run p schedule).outlooks p)[k]? = cs[k]?.map p.transform := by
    rw [outlooks_run, outlooks_start, List.getElem?_map]
  rw [← houtlook, outlooks, List.getElem?_mapIdx]
  apply Option.map_congr
  intro j hj
  rw [Job.outlook_of_done (h j (List.mem_of_getElem? hj))]

/-- The jobs of a finished batch hold the classes and the anomalies of the pipeline on each
class. -/
theorem jobs_of_finished
    (h : ((start p cs).run p schedule).Finished) :
  ((start p cs).run p schedule).jobs
    = cs.map fun c => ⟨(p.transform c).value, [], (p.transform c).anomalies⟩
  := by
  apply List.ext_getElem?
  intro k
  have hreports := map_jobs_of_finished h k
  rw [List.getElem?_map]
  cases hc : cs[k]? with
  | none =>
    rw [hc] at hreports
    apply Option.map_eq_none_iff.mp hreports
  | some c =>
    rw [hc] at hreports
    obtain ⟨j, hj, hreport⟩ := Option.map_eq_some_iff.mp hreports
    have hpending : j.pending = [] := h j (List.mem_of_getElem? hj)
    rw [hj, Option.map_some, ← hreport, ← hpending]

/-- The events of a job in a finished batch are those of the pipeline on its class. -/
theorem eventsFrom_of_finished
    (h : ((start p cs).run p schedule).Finished) (k : Nat) :
  eventsFrom k ((start p cs).run p schedule).log
    = (cs.map fun c => (p.transform c).log)[k]?.getD []
  := by
  rw [List.getElem?_map]
  cases hc : cs[k]? with
  | none =>
    have hnone : (start p cs).jobs[k]? = none := by rw [getElem?_jobs_start, hc, Option.map_none]
    apply eventsFrom_run_of_none p schedule hnone
  | some c =>
    have hjobs := map_jobs_of_finished h k
    rw [hc] at hjobs
    obtain ⟨j, -, hreport⟩ := Option.map_eq_some_iff.mp hjobs
    apply congrArg Report.log hreport

end Batch

/-! ### Batches and classes in turn -/

namespace Pipeline

/-- The log of the classes in turn, each event with the number of its class. -/
def numberedLog (p : Pipeline) (cs : List Class) : List (Nat × Event) :=
  Batch.numbered 0 (cs.map fun c => (p.transform c).log)

theorem map_snd_numberedLog
    (p : Pipeline) (cs : List Class) :
  (p.numberedLog cs).map Prod.snd = (p.transformAll cs).log
  := by
  rw [numberedLog, Batch.map_snd_numbered, transformAll, Report.log_mapM, List.flatMap_def]

theorem eventsFrom_numberedLog
    (p : Pipeline) (cs : List Class) (i : Nat) :
  Batch.eventsFrom i (p.numberedLog cs) = (cs.map fun c => (p.transform c).log)[i]?.getD []
  := by
  have hnumbered := Batch.eventsFrom_numbered i 0 (cs.map fun c => (p.transform c).log)
  rw [Nat.zero_add] at hnumbered
  apply hnumbered

variable {p : Pipeline} {schedule : List Nat} {cs : List Class}

theorem value_transformScheduled
    (h : ((Batch.start p cs).run p schedule).Finished) :
  (p.transformScheduled schedule cs).value = (p.transformAll cs).value
  := by
  simp [transformScheduled, Batch.report, Batch.jobs_of_finished h, transformAll]

theorem anomalies_transformScheduled
    (h : ((Batch.start p cs).run p schedule).Finished) :
  (p.transformScheduled schedule cs).anomalies = (p.transformAll cs).anomalies
  := by
  simp [transformScheduled, Batch.report, Batch.jobs_of_finished h, transformAll,
    List.flatMap_map]

/-- The events of each class are logged in the same order as with the classes in turn. -/
theorem eventsFrom_transformScheduled
    (h : ((Batch.start p cs).run p schedule).Finished) (i : Nat) :
  Batch.eventsFrom i ((Batch.start p cs).run p schedule).log
    = Batch.eventsFrom i (p.numberedLog cs)
  := by
  rw [Batch.eventsFrom_of_finished h, eventsFrom_numberedLog]

/-- Only the order of the events depends on the schedule. -/
theorem log_transformScheduled_perm
    (h : ((Batch.start p cs).run p schedule).Finished) :
  (p.transformScheduled schedule cs).log.Perm (p.transformAll cs).log
  := by
  rw [← map_snd_numberedLog]
  apply List.Perm.map
  apply Batch.perm_of_eventsFrom (eventsFrom_transformScheduled h)

end Pipeline

/-- Whatever the order in which jobs make their steps, provided that each of them has a
turn for every stage: the jobs get done, and the classes and the anomalies are those of
the classes in turn.  The events of each class come in the same order as there, so the log
is a permutation of the log of the classes in turn. -/
theorem Pipeline.schedules_agree
    (p : Pipeline) (cs : List Class) (schedule : List Nat)
    (hturns : ∀ i < cs.length, p.stages.length ≤ schedule.count i) :
  ((Batch.start p cs).run p schedule).Finished
    ∧ (p.transformScheduled schedule cs).value = (p.transformAll cs).value
    ∧ (p.transformScheduled schedule cs).anomalies = (p.transformAll cs).anomalies
    ∧ (p.numberedLog cs).map Prod.snd = (p.transformAll cs).log
    ∧ (∀ i, Batch.eventsFrom i ((Batch.start p cs).run p schedule).log
        = Batch.eventsFrom i (p.numberedLog cs))
    ∧ (p.transformScheduled schedule cs).log.Perm (p.transformAll cs).log
  := by
  have hfinished := (Batch.finished_run_start_iff p).mpr hturns
  use hfinished, value_transformScheduled hfinished, anomalies_transformScheduled hfinished,
    p.map_snd_numberedLog cs, eventsFrom_transformScheduled hfinished
  apply log_transformScheduled_perm hfinished

/-- Two classes, the second of which is finished before the first has begun with its second
stage.  Their events are logged in another order than with the classes in turn. -/
theorem Pipeline.schedules_agree_planet :
  let p : Pipeline := ⟨true, [.alignAnnotations ⟨true⟩, .stripLocals ⟨true⟩]⟩
  let cs : List Class := [.planet, Class.planet.relabel (some ⟨"Moon"⟩) none]
  (∀ i < cs.length, p.stages.length ≤ [0, 1, 1, 0].count i)
    ∧ (p.transformScheduled [0, 1, 1, 0] cs).value = (p.transformAll cs).value
    ∧ (p.transformScheduled [0, 1, 1, 0] cs).anomalies = (p.transformAll cs).anomalies
    ∧ (p.transformScheduled [0, 1, 1, 0] cs).log.Perm (p.transformAll cs).log
    ∧ (p.transformScheduled [0, 1, 1, 0] cs).log ≠ (p.transformAll cs).log
  := by
  intro p cs
  have hturns : ∀ i < cs.length, p.stages.length ≤ [0, 1, 1, 0].count i := by decide
  obtain ⟨-, hvalue, hanomalies, -, -, hperm⟩ := Pipeline.schedules_agree p cs _ hturns
  use hturns, hvalue, hanomalies, hperm
  decide

/-- In the round robin each job has a turn in every round. -/
theorem Batch.count_roundRobin
    {jobs i : Nat} (h : i < jobs) (rounds : Nat) :
  (roundRobin jobs rounds).count i = rounds
  := by
  rw [roundRobin, List.count_flatten, List.map_replicate, List.count_range, if_pos h]
  simp

/-- The classes side by side give the classes and the anomalies of the classes in turn, and
the same events. -/
theorem Pipeline.transformTogether_agrees
    (p : Pipeline) (cs : List Class) :
  (p.transformTogether cs).value = (p.transformAll cs).value
    ∧ (p.transformTogether cs).anomalies = (p.transformAll cs).anomalies
    ∧ (p.transformTogether cs).log.Perm (p.transformAll cs).log
  := by
  have hfinished : ((Batch.start p cs).run p
      (Batch.roundRobin cs.length p.stages.length)).Finished := by
    apply (Batch.finished_run_start_iff p).mpr
    intro i hi
    apply Nat.le_of_eq
    apply (Batch.count_roundRobin hi _).symm
  use value_transformScheduled hfinished, anomalies_transformScheduled hfinished
  apply log_transformScheduled_perm hfinished

end ClassFile
