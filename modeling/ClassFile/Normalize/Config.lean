import ClassFile.Normalize.Aligner
import ClassFile.Normalize.Stripper

/-!
# Configuration

A host says whether the passes should log, and what its representation of classes can
keep.  The aligner depends on one capability and cannot be set up without it.
-/

namespace ClassFile

/-- What a representation of classes can keep and write back. -/
inductive HostCapability where
  /-- The count of annotable parameters apart from the length of the list. -/
  | annotableParameterCount
deriving DecidableEq, Repr

instance : Flag HostCapability where
  width := 8
  declared := [.annotableParameterCount]
  mask
    | .annotableParameterCount => 0x01
  name
    | .annotableParameterCount => "ANNOTABLE_PARAMETER_COUNT"

/-- The configuration of passes and pipelines. -/
structure Config where
  /-- Whether to log. -/
  verbose : Bool := false
  /-- The capabilities of the host. -/
  host : Flags HostCapability := Flags.all
deriving DecidableEq, Repr

/-- Why a pass cannot be set up. -/
inductive SetupError where
  /-- The host does not keep the count of annotable parameters. -/
  | annotableParameterCountUnsupported
deriving DecidableEq, Repr

namespace SetupError

/-- The text of the error. -/
def message : SetupError → String
  | annotableParameterCountUnsupported =>
    "Annotable parameter counts are not supported by the host class representation"

end SetupError

/-- The aligner for a configuration. -/
def AnnotationAligner.ofConfig (config : Config) : Except SetupError AnnotationAligner :=
  if HostCapability.annotableParameterCount ∈ config.host then
    .ok ⟨config.verbose⟩
  else
    .error .annotableParameterCountUnsupported

/-- The stripper for a configuration. -/
def LocalVariableStripper.ofConfig (config : Config) : LocalVariableStripper :=
  ⟨config.verbose⟩

end ClassFile
