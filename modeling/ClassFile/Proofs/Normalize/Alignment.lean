import ClassFile.Normalize.Aligner

/-!
# What the aligner does and what it reports

The value and the anomalies of a run of the aligner do not depend on whether it logs.  For
each level, from the annotations of one visibility up to a class, there is a function that
gives the value (`aligned`) and one that gives the anomalies (`anomalies`), both read off
the state before the run.

Alignment is idempotent at each level, and the anomalies of an aligned state are those of
the state it came from.
-/

namespace ClassFile

/-! ### Annotations of one visibility -/

namespace ParameterAnnotations

/-- The length of a list after trimming. -/
theorem length_trim
    (n s : Nat) (lists : List (List Annotation)) :
  (trim n s lists).length = if lists.length = n then n - s else lists.length
  := by
  rw [trim]
  split
  · next h => rw [List.length_drop, h]
  · rfl

/-- A list is trimmed once: after that it has an entry for every parameter only if there
was nothing to remove. -/
theorem trim_trim
    (n s : Nat) (lists : List (List Annotation)) :
  trim n s (trim n s lists) = trim n s lists
  := by
  by_cases hlength : (trim n s lists).length = n
  · have hnone : s = 0 ∨ n = 0 := by
      rw [length_trim] at hlength
      split at hlength <;> omega
    rw [trim, if_pos hlength]
    obtain rfl | rfl := hnone
    · rfl
    · rw [List.length_eq_zero_iff.mp hlength, List.drop_nil]
  · rw [trim, if_neg hlength]

theorem aligned_of_none
    {a : ParameterAnnotations} (h : a.lists = none) (n s : Nat) :
  a.aligned n s = a
  := by
  rw [aligned, h]

theorem aligned_of_some
    {a : ParameterAnnotations} {lists : List (List Annotation)} (h : a.lists = some lists)
    (n s : Nat) :
  a.aligned n s = a.withLists (trim n s lists)
  := by
  rw [aligned, h]

/-- Aligned annotations have a list exactly when there was one. -/
theorem lists_aligned
    (n s : Nat) (a : ParameterAnnotations) :
  (a.aligned n s).lists = a.lists.map (trim n s)
  := by
  cases h : a.lists with
  | none => rw [aligned_of_none h, h, Option.map_none]
  | some lists =>
    rw [aligned_of_some h]
    rfl

/-- Setting the same list twice is setting it once. -/
theorem withLists_withLists
    (a : ParameterAnnotations) (lists : List (List Annotation)) :
  (a.withLists lists).withLists lists = a.withLists lists
  := by
  rw [withLists, withLists]
  cases count? lists.length <;> rfl

/-- Alignment is idempotent. -/
@[simp]
theorem aligned_aligned
    (n s : Nat) (a : ParameterAnnotations) :
  (a.aligned n s).aligned n s = a.aligned n s
  := by
  cases h : a.lists with
  | none => rw [aligned_of_none h, aligned_of_none h]
  | some lists =>
    have htrimmed : (a.withLists (trim n s lists)).lists = some (trim n s lists) := rfl
    rw [aligned_of_some h, aligned_of_some htrimmed, trim_trim]
    apply withLists_withLists

/-- The anomalies of a list with `k` entries: it should have an entry for each of the `n`
parameters or for each but the first `s`, and the number of the latter should fit the
count. -/
def lengthAnomalies (m : MethodRef) (v : Visibility) (n s k : Nat) : List Anomaly :=
  if k = n ∨ k = n - s then
    if n - s ≤ 255 then [] else [.unexpectedCount m v (n - s)]
  else
    [.unexpectedCount m v k]

/-- The anomalies of the annotations of a visibility, given the number of the parameters
and of the synthetic ones among them. -/
def anomalies (m : MethodRef) (v : Visibility) (n s : Nat) (a : ParameterAnnotations) :
    List Anomaly :=
  match a.lists with
  | some lists => lengthAnomalies m v n s lists.length
  | none => []

/-- Trimming a list does not change its anomalies. -/
theorem lengthAnomalies_trim
    (m : MethodRef) (v : Visibility) (n s : Nat) (lists : List (List Annotation)) :
  lengthAnomalies m v n s (trim n s lists).length = lengthAnomalies m v n s lists.length
  := by
  rw [length_trim]
  by_cases h : lists.length = n
  · simp [lengthAnomalies, h]
  · rw [if_neg h]

/-- Aligned annotations have the anomalies that they had before. -/
@[simp]
theorem anomalies_aligned
    (m : MethodRef) (v : Visibility) (n s : Nat) (a : ParameterAnnotations) :
  (a.aligned n s).anomalies m v n s = a.anomalies m v n s
  := by
  rw [anomalies, anomalies, lists_aligned]
  cases a.lists with
  | none => rfl
  | some lists => apply lengthAnomalies_trim

end ParameterAnnotations

namespace AnnotationAligner

variable (pass : AnnotationAligner)

/-- A list is examined without finding anything but the anomalies of its length. -/
theorem anomalies_examine
    (m : MethodRef) (v : Visibility) (n s : Nat) (a : ParameterAnnotations) :
  (pass.examine m v n s a.lists).anomalies = a.anomalies m v n s
  := by
  have hnote : ∀ k, (pass.noteLength m v n s k).anomalies = [] := by
    intro k
    rw [noteLength]
    split
    · rfl
    · split <;> rfl
  rw [ParameterAnnotations.anomalies]
  cases a.lists with
  | none => rfl
  | some lists =>
    simp only [examine, Report.anomalies_bind, hnote, List.nil_append, checkLength,
      ParameterAnnotations.length_trim, ParameterAnnotations.lengthAnomalies]
    -- Of the two lengths in `checkLength`, the one after trimming is what is reported.
    by_cases hn : lists.length = n
    · by_cases hs : n - s ≤ 255 <;> simp [hn, hs]
    · by_cases hns : lists.length = n - s
      · by_cases hs : n - s ≤ 255 <;> simp [hns, hs]
      · simp [hn, hns]

/-- The anomalies of the annotations of a visibility are all that their alignment
reports. -/
@[simp]
theorem anomalies_align
    (m : MethodRef) (v : Visibility) (n s : Nat) (a : ParameterAnnotations) :
  (pass.align m v n s a).anomalies = a.anomalies m v n s
  := by
  rw [align, Report.anomalies_bind, Report.anomalies_pure, List.append_nil, anomalies_examine]

@[simp]
theorem value_align
    (m : MethodRef) (v : Visibility) (n s : Nat) (a : ParameterAnnotations) :
  (pass.align m v n s a).value = a.aligned n s
  := rfl

end AnnotationAligner

/-! ### Constructors -/

namespace Method

/-- The method after alignment as a constructor that should begin with the given synthetic
parameters. -/
def aligned (synthetic : List FieldType) (m : Method) : Method :=
  if m.descriptor.StartsWith synthetic then
    { m with
      visible := m.visible.aligned m.parameters.length synthetic.length
      invisible := m.invisible.aligned m.parameters.length synthetic.length }
  else
    m

/-- The anomalies of a method as a constructor that should begin with the given synthetic
parameters. -/
def anomalies (synthetic : List FieldType) (m : Method) : List Anomaly :=
  if m.descriptor.StartsWith synthetic then
    m.visible.anomalies m.reference .visible m.parameters.length synthetic.length
      ++ m.invisible.anomalies m.reference .invisible m.parameters.length synthetic.length
  else
    [.missingSynthetic m.reference synthetic]

variable {synthetic : List FieldType} {m : Method}

theorem aligned_of_startsWith
    (h : m.descriptor.StartsWith synthetic) :
  m.aligned synthetic
    = { m with
        visible := m.visible.aligned m.parameters.length synthetic.length
        invisible := m.invisible.aligned m.parameters.length synthetic.length }
  := if_pos h

theorem aligned_of_not_startsWith
    (h : ¬ m.descriptor.StartsWith synthetic) :
  m.aligned synthetic = m
  := if_neg h

@[simp]
theorem name_aligned
    (synthetic : List FieldType) (m : Method) :
  (m.aligned synthetic).name = m.name
  := by
  rw [aligned]
  split <;> rfl

@[simp]
theorem descriptor_aligned
    (synthetic : List FieldType) (m : Method) :
  (m.aligned synthetic).descriptor = m.descriptor
  := by
  rw [aligned]
  split <;> rfl

@[simp]
theorem isConstructor_aligned
    (synthetic : List FieldType) (m : Method) :
  (m.aligned synthetic).IsConstructor ↔ m.IsConstructor
  := by
  rw [IsConstructor, name_aligned, IsConstructor]

/-- Alignment of a constructor treats both visibilities alike. -/
theorem annotations_aligned
    (synthetic : List FieldType) (m : Method) (v : Visibility) :
  (m.aligned synthetic).annotations v
    = if m.descriptor.StartsWith synthetic then
        (m.annotations v).aligned m.parameters.length synthetic.length
      else
        m.annotations v
  := by
  rw [aligned]
  split
  · cases v <;> rfl
  · rfl

/-- Alignment of a constructor is idempotent. -/
@[simp]
theorem aligned_aligned
    (synthetic : List FieldType) (m : Method) :
  (m.aligned synthetic).aligned synthetic = m.aligned synthetic
  := by
  by_cases h : m.descriptor.StartsWith synthetic
  · have h' : (m.aligned synthetic).descriptor.StartsWith synthetic := by
      rw [descriptor_aligned]
      apply h
    rw [aligned_of_startsWith h', aligned_of_startsWith h]
    simp [parameters]
  · rw [aligned_of_not_startsWith h, aligned_of_not_startsWith h]

/-- An aligned constructor has the anomalies that it had before. -/
@[simp]
theorem anomalies_aligned
    (synthetic : List FieldType) (m : Method) :
  (m.aligned synthetic).anomalies synthetic = m.anomalies synthetic
  := by
  by_cases h : m.descriptor.StartsWith synthetic
  · rw [aligned_of_startsWith h]
    simp [anomalies, h, reference, parameters]
  · rw [aligned_of_not_startsWith h]

end Method

namespace AnnotationAligner

variable (pass : AnnotationAligner)

@[simp]
theorem value_alignConstructor
    (synthetic : List FieldType) (m : Method) :
  (pass.alignConstructor synthetic m).value = m.aligned synthetic
  := by
  rw [alignConstructor, Method.aligned]
  split <;> rfl

/-- The anomalies of a constructor are all that its alignment reports. -/
@[simp]
theorem anomalies_alignConstructor
    (synthetic : List FieldType) (m : Method) :
  (pass.alignConstructor synthetic m).anomalies = m.anomalies synthetic
  := by
  rw [alignConstructor, Method.anomalies]
  split
  · simp
  · rfl

end AnnotationAligner

/-! ### Classes -/

namespace Class

/-- A method of a class after alignment. -/
def alignedMethod (c : Class) (m : Method) : Method :=
  match c.expectedSyntheticParameters with
  | some synthetic => if m.IsConstructor then m.aligned synthetic else m
  | none => m

/-- The anomalies of a method of a class. -/
def methodAnomalies (c : Class) (m : Method) : List Anomaly :=
  match c.expectedSyntheticParameters with
  | some synthetic => if m.IsConstructor then m.anomalies synthetic else []
  | none => []

/-- The class with all its constructors aligned. -/
def aligned (c : Class) : Class := { c with methods := c.methods.map c.alignedMethod }

/-- The anomalies of all methods of a class, in their order. -/
def anomalies (c : Class) : List Anomaly := c.methods.flatMap c.methodAnomalies

section

variable {c : Class}

theorem alignedMethod_of_none
    (h : c.expectedSyntheticParameters = none) (m : Method) :
  c.alignedMethod m = m
  := by
  rw [alignedMethod, h]

theorem alignedMethod_of_some
    {synthetic : List FieldType} (h : c.expectedSyntheticParameters = some synthetic)
    (m : Method) :
  c.alignedMethod m = if m.IsConstructor then m.aligned synthetic else m
  := by
  rw [alignedMethod, h]

theorem methodAnomalies_of_none
    (h : c.expectedSyntheticParameters = none) (m : Method) :
  c.methodAnomalies m = []
  := by
  rw [methodAnomalies, h]

theorem methodAnomalies_of_some
    {synthetic : List FieldType} (h : c.expectedSyntheticParameters = some synthetic)
    (m : Method) :
  c.methodAnomalies m = if m.IsConstructor then m.anomalies synthetic else []
  := by
  rw [methodAnomalies, h]

end

/-- Alignment of a method is idempotent. -/
@[simp]
theorem alignedMethod_alignedMethod
    (c : Class) (m : Method) :
  c.alignedMethod (c.alignedMethod m) = c.alignedMethod m
  := by
  cases h : c.expectedSyntheticParameters with
  | none => rw [alignedMethod_of_none h, alignedMethod_of_none h]
  | some synthetic =>
    rw [alignedMethod_of_some h, alignedMethod_of_some h]
    by_cases hm : m.IsConstructor <;> simp [hm]

/-- An aligned method has the anomalies that it had before. -/
@[simp]
theorem methodAnomalies_alignedMethod
    (c : Class) (m : Method) :
  c.methodAnomalies (c.alignedMethod m) = c.methodAnomalies m
  := by
  cases h : c.expectedSyntheticParameters with
  | none => rw [alignedMethod_of_none h]
  | some synthetic =>
    rw [alignedMethod_of_some h, methodAnomalies_of_some h, methodAnomalies_of_some h]
    by_cases hm : m.IsConstructor <;> simp [hm]

@[simp]
theorem alignedMethod_withMethods
    (c : Class) (methods : List Method) :
  { c with methods }.alignedMethod = c.alignedMethod
  := rfl

@[simp]
theorem methodAnomalies_withMethods
    (c : Class) (methods : List Method) :
  { c with methods }.methodAnomalies = c.methodAnomalies
  := rfl

/-- Alignment of a class is idempotent. -/
theorem aligned_aligned
    (c : Class) :
  c.aligned.aligned = c.aligned
  := by
  simp [aligned]

/-- An aligned class has the anomalies that it had before. -/
theorem anomalies_aligned
    (c : Class) :
  c.aligned.anomalies = c.anomalies
  := by
  simp [anomalies, aligned, List.flatMap_map]

end Class

namespace AnnotationAligner

variable (pass : AnnotationAligner)

@[simp]
theorem value_run
    (c : Class) :
  (pass.run c).value = c.aligned
  := by
  rw [run, Class.aligned]
  cases h : c.expectedSyntheticParameters with
  | none =>
    have hid : c.alignedMethod = id := by
      funext m
      apply Class.alignedMethod_of_none h
    rw [hid, List.map_id]
    rfl
  | some synthetic =>
    have hmethod : ∀ m, (pass.alignMethod synthetic m).value = c.alignedMethod m := by
      intro m
      rw [alignMethod, Class.alignedMethod_of_some h]
      split
      · apply value_alignConstructor
      · rfl
    simp [hmethod]

/-- The anomalies of a class are all that a run of the aligner reports. -/
@[simp]
theorem anomalies_run
    (c : Class) :
  (pass.run c).anomalies = c.anomalies
  := by
  rw [run, Class.anomalies]
  cases h : c.expectedSyntheticParameters with
  | none => simp [Class.methodAnomalies_of_none h]
  | some synthetic =>
    have hmethod : ∀ m, (pass.alignMethod synthetic m).anomalies = c.methodAnomalies m := by
      intro m
      rw [alignMethod, Class.methodAnomalies_of_some h]
      split
      · apply anomalies_alignConstructor
      · rfl
    simp [hmethod]

end AnnotationAligner

/-- An enum with one constructor.  The visible annotations of the constructor have entries
for its synthetic parameters, the invisible ones are a list of an unexpected length, and
its body names a variable. -/
def Class.planet : Class where
  flags := {.accEnum}
  name := ⟨"Planet"⟩
  innerClasses := []
  methods :=
    [{ flags := ∅
       name := Method.constructorName
       descriptor := ⟨[.string, .base .int, .base .double], .void⟩
       owner := ⟨"Planet"⟩
       body := some
         { maxStack := 3
           maxLocals := 5
           code := []
           lineNumbers := none
           localVariables := some ⟨[⟨0, 9, "mass", some (.base .double), none, 3⟩]⟩
           attributes := [] }
       visible := { lists := some [[], [], [.marker (.object ⟨"Mass"⟩)]] }
       invisible := { lists := some [[], []] } }]

end ClassFile
