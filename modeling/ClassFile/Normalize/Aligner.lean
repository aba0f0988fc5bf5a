import ClassFile.Normalize.Report

/-!
# Aligning parameter annotations

A compiler writes annotations for the parameters of the source only.  A tool that has
processed a class may have put an entry for every synthetic parameter in front of them.
The aligner removes these entries from the constructors of a class, and sets the count of
annotable parameters to the length of the list.

A constructor with `n` parameters, `s` of which are synthetic, may have a list of `n` or
of `n - s` entries.  Any other length is an anomaly, and so is a length that does not fit
the count.
-/

namespace ClassFile

namespace ParameterAnnotations

/-- A list of entries without those of the first `s` parameters, provided that it has
one for each of the `n` parameters. -/
def trim (n s : Nat) (lists : List (List Annotation)) : List (List Annotation) :=
  if lists.length = n then lists.drop s else lists

/-- The annotations with another list, and with its length as the count if it fits. -/
def withLists (a : ParameterAnnotations) (lists : List (List Annotation)) :
    ParameterAnnotations where
  lists := some lists
  count := count? lists.length <|> a.count

/-- The annotations of a constructor with `n` parameters, the first `s` of which are
synthetic, after alignment. -/
def aligned (n s : Nat) (a : ParameterAnnotations) : ParameterAnnotations :=
  match a.lists with
  | some lists => a.withLists (trim n s lists)
  | none => a

end ParameterAnnotations

/-- The pass that aligns the parameter annotations of constructors. -/
structure AnnotationAligner where
  /-- Whether the pass logs. -/
  verbose : Bool
deriving DecidableEq, Repr

namespace AnnotationAligner

/-- Logs how a list of `k` entries compares with the `n` parameters and the `s` synthetic
ones among them. -/
def noteLength (pass : AnnotationAligner) (m : MethodRef) (v : Visibility) (n s k : Nat) :
    Report Unit :=
  if k = n then
    Report.note pass.verbose (.entriesRemoved m v s)
  else if k = n - s then
    Report.note pass.verbose (.alreadyAligned m v)
  else
    pure ()

/-- Reports a list that had `k` entries and has `k'` now, if the length was unexpected or
does not fit the count. -/
def checkLength (pass : AnnotationAligner) (m : MethodRef) (v : Visibility)
    (n s k k' : Nat) : Report Unit :=
  if (k = n ∨ k = n - s) ∧ k' ≤ 255 then
    pure ()
  else
    Report.raise pass.verbose (.unexpectedCount m v k')

/-- Says of the list of a visibility, if there is one, what there is to log and to
report. -/
def examine (pass : AnnotationAligner) (m : MethodRef) (v : Visibility) (n s : Nat) :
    Option (List (List Annotation)) → Report Unit
  | some lists => do
    pass.noteLength m v n s lists.length
    pass.checkLength m v n s lists.length (ParameterAnnotations.trim n s lists).length
  | none => Report.note pass.verbose (.attributeAbsent m v)

/-- Aligns the annotations of one visibility of a constructor with `n` parameters, the
first `s` of which are synthetic. -/
def align (pass : AnnotationAligner) (m : MethodRef) (v : Visibility) (n s : Nat)
    (a : ParameterAnnotations) : Report ParameterAnnotations := do
  pass.examine m v n s a.lists
  return a.aligned n s

/-- Aligns the annotations of a constructor, given the synthetic parameters that it should
begin with.  A constructor that does not begin with them stays as it is. -/
def alignConstructor (pass : AnnotationAligner) (synthetic : List FieldType) (m : Method) :
    Report Method :=
  if m.descriptor.StartsWith synthetic then do
    let n := m.parameters.length
    let s := synthetic.length
    let visible ← pass.align m.reference .visible n s m.visible
    let invisible ← pass.align m.reference .invisible n s m.invisible
    return { m with visible, invisible }
  else do
    Report.raise pass.verbose (.missingSynthetic m.reference synthetic)
    return m

/-- Aligns the annotations of a method if it is a constructor. -/
def alignMethod (pass : AnnotationAligner) (synthetic : List FieldType) (m : Method) :
    Report Method :=
  if m.IsConstructor then pass.alignConstructor synthetic m else pure m

/-- Aligns the annotations of all constructors of a class whose kind has synthetic
parameters. -/
def run (pass : AnnotationAligner) (c : Class) : Report Class := do
  Report.note pass.verbose (.classified c.name (Classification.of c))
  match c.expectedSyntheticParameters with
  | some synthetic =>
    let methods ← c.methods.mapM (pass.alignMethod synthetic)
    return { c with methods }
  | none => return c

end AnnotationAligner

end ClassFile
