import ClassFile.Normalize.Pipeline

/-!
# Batches

Several classes can be processed at the same time.  A batch has one job for each class,
and a step of the batch runs the next stage of one of the jobs.  A schedule is the list of
the jobs that get to make a step, so every way in which the jobs can be interleaved is the
run of some schedule.

A job collects its own anomalies, and at the end they are joined in the order of the
classes.  The log is shared: events stand in it in the order in which they happened, each
with the number of the job that logged it.
-/

namespace ClassFile

/-- The work on one class. -/
structure Job where
  /-- The class as it is now. -/
  subject : Class
  /-- The stages that are still to be run, in order. -/
  pending : List Stage
  /-- The anomalies found so far. -/
  anomalies : List Anomaly

namespace Job

/-- Runs the next stage of a job, if there is one. -/
def step (p : Pipeline) (j : Job) : Job × List Event :=
  match j.pending with
  | [] => (j, [])
  | stage :: pending =>
    let r := p.runStage j.subject stage
    ({ subject := r.value, pending, anomalies := j.anomalies ++ r.anomalies }, r.log)

end Job

/-- The work on several classes. -/
structure Batch where
  /-- The jobs, in the order of the classes. -/
  jobs : List Job
  /-- The events logged so far, each with the number of its job. -/
  log : List (Nat × Event)

namespace Batch

/-- The batch in which nothing has been done yet. -/
def start (p : Pipeline) (cs : List Class) : Batch where
  jobs := cs.map fun c => ⟨c, p.stages, []⟩
  log := []

/-- Runs the next stage of the job with number `i`. -/
def step (p : Pipeline) (b : Batch) (i : Nat) : Batch :=
  match b.jobs[i]? with
  | none => b
  | some j =>
    { jobs := b.jobs.set i (j.step p).1
      log := b.log ++ (j.step p).2.map (i, ·) }

/-- Lets the jobs make steps in the order of a schedule. -/
def run (p : Pipeline) (schedule : List Nat) (b : Batch) : Batch :=
  schedule.foldl (step p) b

/-- A batch is finished when no job has a stage left. -/
def Finished (b : Batch) : Prop := ∀ j ∈ b.jobs, j.pending = []

/-- The classes as they are now, the anomalies joined in their order, and the log. -/
def report (b : Batch) : Report (List Class) where
  value := b.jobs.map Job.subject
  anomalies := b.jobs.flatMap Job.anomalies
  log := b.log.map Prod.snd

/-- The schedule in which `jobs` jobs make a step in turn, `rounds` times. -/
def roundRobin (jobs rounds : Nat) : List Nat :=
  (List.replicate rounds (List.range jobs)).flatten

end Batch

namespace Pipeline

/-- Runs all stages on each class, interleaved as a schedule says. -/
def transformScheduled (p : Pipeline) (schedule : List Nat) (cs : List Class) :
    Report (List Class) :=
  ((Batch.start p cs).run p schedule).report

/-- Runs all stages on the classes side by side, a stage on every class before the next
stage. -/
def transformTogether (p : Pipeline) (cs : List Class) : Report (List Class) :=
  p.transformScheduled (Batch.roundRobin cs.length p.stages.length) cs

end Pipeline

end ClassFile
