import ClassFile.Normalize.Config

/-!
# Pipelines

A pipeline runs stages on a class, one after the other.  A stage is one of the two passes
of this library, or a function of the host.  Nothing is shared between classes, so
several classes are processed one after the other in the same way.

A pipeline and its stages each have their own say in what they log.
-/

namespace ClassFile

/-- The class with another name and other flags, where they are given. -/
def Class.relabel (c : Class) (name? : Option ClassName) (flags? : Option (Flags ClassFlag)) :
    Class :=
  { c with name := name?.getD c.name, flags := flags?.getD c.flags }

/-- A stage of a pipeline. -/
inductive Stage where
  /-- The alignment of parameter annotations. -/
  | alignAnnotations (pass : AnnotationAligner)
  /-- The removal of local variable tables. -/
  | stripLocals (pass : LocalVariableStripper)
  /-- A stage that the host provides. -/
  | host (name : String) (run : Class → Report Class)

namespace Stage

/-- The name of a stage. -/
def name : Stage → String
  | alignAnnotations _ => "parameter-annotations"
  | stripLocals _ => "local-variable-table"
  | host name _ => name

/-- Runs a stage on a class. -/
def run : Stage → Class → Report Class
  | alignAnnotations pass => pass.run
  | stripLocals pass => pass.run
  | host _ run => run

/-- The stage of the host that gives a class another name and other flags, and is silent
about it. -/
def relabel (stageName : String) (name? : Option ClassName)
    (flags? : Option (Flags ClassFlag)) : Stage :=
  host stageName fun c => pure (c.relabel name? flags?)

end Stage

/-- A list of stages to be run in order. -/
structure Pipeline where
  /-- Whether the pipeline logs which stages it runs. -/
  verbose : Bool
  /-- The stages. -/
  stages : List Stage

namespace Pipeline

/-- The pipeline without stages. -/
def empty (config : Config) : Pipeline := ⟨config.verbose, []⟩

/-- The pipeline with a stage appended. -/
def push (p : Pipeline) (stage : Stage) : Pipeline :=
  { p with stages := p.stages ++ [stage] }

/-- The pipeline that aligns parameter annotations and then removes local variable
tables. -/
def standard (config : Config) : Except SetupError Pipeline := do
  let aligner ← AnnotationAligner.ofConfig config
  return ((empty config).push (.alignAnnotations aligner)).push
    (.stripLocals (.ofConfig config))

/-- The names of the stages, in order. -/
def stageNames (p : Pipeline) : List String := p.stages.map Stage.name

/-- Runs one stage on a class and logs that it does, under the name that the class has
at that time. -/
def runStage (p : Pipeline) (c : Class) (stage : Stage) : Report Class := do
  Report.note p.verbose (.running stage.name c.name)
  stage.run c

/-- Runs all stages on a class, in order. -/
def transform (p : Pipeline) (c : Class) : Report Class := p.stages.foldlM p.runStage c

/-- Runs all stages on each class in turn. -/
def transformAll (p : Pipeline) (cs : List Class) : Report (List Class) :=
  cs.mapM p.transform

end Pipeline

end ClassFile
