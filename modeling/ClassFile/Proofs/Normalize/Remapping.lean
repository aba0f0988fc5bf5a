import ClassFile.Proofs.Normalize.Stages
import Mathlib.Data.List.Infix
import Mathlib.Logic.Equiv.Basic

/-!
# Normalization commutes with remapping

A remapping gives classes other names, different ones to different classes, and changes
the annotations of parameters in any way.  The class of character strings keeps its name,
since the synthetic parameters of an enum mention it.

Whether a class is remapped before it is normalized or afterwards makes no difference, and
the anomalies of the remapped class are the remapped anomalies.  Each function that
normalization is made of has its own lemma.  That the names stay different matters in two
places: where a class looks for its own record, and where the parameters of a constructor
are compared with the synthetic ones.
-/

namespace ClassFile

/-- A change of the names of classes and of the annotations of parameters. -/
structure Remapping where
  /-- The new name of a class. -/
  name : ClassName → ClassName
  /-- Different classes get different names. -/
  name_injective : Function.Injective name
  /-- The class of character strings keeps its name. -/
  name_string : name .string = .string
  /-- What becomes of an annotation. -/
  annotation : Annotation → Annotation

/-! ### Remapped classes -/

section Definitions

variable (r : Remapping)

/-- The type with the class at its leaf, if it has one, renamed. -/
def FieldType.remap : FieldType → FieldType
  | base type => base type
  | object name => object (r.name name)
  | array element => array (remap element)

/-- The return with its type, if it has one, remapped. -/
def ReturnDescriptor.remap : ReturnDescriptor → ReturnDescriptor
  | value type => value (type.remap r)
  | void => void

/-- The descriptor with all its types remapped. -/
def MethodDescriptor.remap (d : MethodDescriptor) : MethodDescriptor where
  parameters := d.parameters.map (FieldType.remap r)
  result := d.result.remap r

/-- The reference to the remapped method. -/
def MethodRef.remap (m : MethodRef) : MethodRef where
  owner := r.name m.owner
  name := m.name
  descriptor := m.descriptor.remap r

/-- The anomaly of the remapped method. -/
def Anomaly.remap : Anomaly → Anomaly
  | missingSynthetic method expected =>
    missingSynthetic (method.remap r) (expected.map (FieldType.remap r))
  | unexpectedCount method visibility count => unexpectedCount (method.remap r) visibility count

/-- The variable with the class in its type renamed.  Its generic signature stays. -/
def LocalVariable.remap (x : LocalVariable) : LocalVariable :=
  { x with type := x.type.map (FieldType.remap r) }

/-- The table with all its variables remapped. -/
def LocalVariableTable.remap (table : LocalVariableTable) : LocalVariableTable where
  entries := table.entries.map (LocalVariable.remap r)

/-- The body with the types of its variables remapped.  Its code stays. -/
def MethodBody.remap (b : MethodBody) : MethodBody :=
  { b with localVariables := b.localVariables.map (LocalVariableTable.remap r) }

/-- The annotations with each annotation of each parameter changed.  The count stays. -/
def ParameterAnnotations.remap (a : ParameterAnnotations) : ParameterAnnotations :=
  { a with lists := a.lists.map (List.map (List.map r.annotation)) }

/-- The method with its owner renamed and its descriptor, its body and its annotations
remapped.  It keeps its name. -/
def Method.remap (m : Method) : Method where
  flags := m.flags
  name := m.name
  descriptor := m.descriptor.remap r
  owner := r.name m.owner
  body := m.body.map (MethodBody.remap r)
  visible := m.visible.remap r
  invisible := m.invisible.remap r

/-- The record with the inner and the outer class renamed.  The name in the source
stays. -/
def InnerClassRecord.remap (record : InnerClassRecord) : InnerClassRecord :=
  { record with
    inner := r.name record.inner
    outer := record.outer.map r.name }

/-- The class under its new name, with its records and its methods remapped. -/
def Class.remap (c : Class) : Class where
  flags := c.flags
  name := r.name c.name
  innerClasses := c.innerClasses.map (InnerClassRecord.remap r)
  methods := c.methods.map (Method.remap r)

/-- The kind of the remapped class. -/
def Classification.remap : Classification → Classification
  | enumClass => enumClass
  | innerClass outer => innerClass (r.name outer)
  | notInner => notInner
  | staticOrInterface => staticOrInterface
  | anonymous => anonymous
  | localClass => localClass

end Definitions

section Equivariance

variable (r : Remapping)

/-! ### Synthetic parameters -/

/-- Different types stay different. -/
theorem FieldType.remap_injective :
  Function.Injective (FieldType.remap r)
  := by
  intro t
  induction t with
  | base type =>
    intro t' h
    cases t' with
    | base type' => apply h
    | object name => contradiction
    | array element => contradiction
  | object name =>
    intro t' h
    cases t' with
    | base type => contradiction
    | object name' => rw [r.name_injective (FieldType.object.inj h)]
    | array element => contradiction
  | array element ih =>
    intro t' h
    cases t' with
    | base type => contradiction
    | object name => contradiction
    | array element' => rw [ih (FieldType.array.inj h)]

/-- Remapped parameters start with remapped types exactly when the parameters start with
the types. -/
theorem MethodDescriptor.startsWith_remap
    (d : MethodDescriptor) (types : List FieldType) :
  (d.remap r).StartsWith (types.map (FieldType.remap r)) ↔ d.StartsWith types
  := List.prefix_map_iff_of_injective (FieldType.remap_injective r)

/-- The record of a remapped class about itself is its remapped record. -/
theorem Class.ownRecord?_remap
    (c : Class) :
  (c.remap r).ownRecord? = c.ownRecord?.map (InnerClassRecord.remap r)
  := by
  have hself : ∀ record : InnerClassRecord,
      (record.remap r).inner = (c.remap r).name ↔ record.inner = c.name := by
    intro record
    apply r.name_injective.eq_iff
  rw [ownRecord?, remap, List.find?_map, ownRecord?]
  simp only [Function.comp_def, ← hself]
  rfl

namespace Classification

theorem ofRecord_remap
    (record : InnerClassRecord) :
  ofRecord (record.remap r) = (ofRecord record).remap r
  := by
  have hflags : (record.remap r).flags = record.flags := rfl
  have hanonymous : (record.remap r).isAnonymous = record.isAnonymous := rfl
  have houter : (record.remap r).outer = record.outer.map r.name := rfl
  rw [ofRecord, ofRecord, hflags, hanonymous, houter]
  split
  · rfl
  · split
    · rfl
    · cases record.outer <;> rfl

/-- The kind of a remapped class is its remapped kind. -/
theorem of_remap
    (c : Class) :
  of (c.remap r) = (of c).remap r
  := by
  have hflags : (c.remap r).flags = c.flags := rfl
  rw [of, of, hflags, Class.ownRecord?_remap]
  split
  · rfl
  · cases c.ownRecord? with
    | none => rfl
    | some record => apply ofRecord_remap

theorem syntheticParameters_remap
    (kind : Classification) :
  (kind.remap r).syntheticParameters
    = kind.syntheticParameters.map (List.map (FieldType.remap r))
  := by
  cases kind with
  | enumClass => simp [remap, syntheticParameters, FieldType.string, FieldType.remap, r.name_string]
  | innerClass outer => rfl
  | notInner => rfl
  | staticOrInterface => rfl
  | anonymous => rfl
  | localClass => rfl

end Classification

theorem Class.expectedSyntheticParameters_remap
    (c : Class) :
  (c.remap r).expectedSyntheticParameters
    = c.expectedSyntheticParameters.map (List.map (FieldType.remap r))
  := by
  rw [expectedSyntheticParameters, Classification.of_remap,
    Classification.syntheticParameters_remap, expectedSyntheticParameters]

/-! ### Alignment -/

namespace ParameterAnnotations

theorem trim_map
    (g : List Annotation → List Annotation) (n s : Nat) (lists : List (List Annotation)) :
  trim n s (lists.map g) = (trim n s lists).map g
  := by
  rw [trim, trim, List.length_map]
  split
  · apply List.map_drop.symm
  · rfl

theorem aligned_remap
    (n s : Nat) (a : ParameterAnnotations) :
  (a.remap r).aligned n s = (a.aligned n s).remap r
  := by
  cases h : a.lists with
  | none =>
    have hremap : (a.remap r).lists = none := by rw [remap, h, Option.map_none]
    rw [aligned_of_none h, aligned_of_none hremap]
  | some lists =>
    have hremap : (a.remap r).lists = some (lists.map (List.map r.annotation)) := by
      rw [remap, h, Option.map_some]
    rw [aligned_of_some h, aligned_of_some hremap, trim_map, withLists, List.length_map]
    rfl

theorem lengthAnomalies_remap
    (m : MethodRef) (v : Visibility) (n s k : Nat) :
  lengthAnomalies (m.remap r) v n s k = (lengthAnomalies m v n s k).map (Anomaly.remap r)
  := by
  rw [lengthAnomalies, lengthAnomalies]
  split
  · split <;> rfl
  · rfl

theorem anomalies_remap
    (m : MethodRef) (v : Visibility) (n s : Nat) (a : ParameterAnnotations) :
  (a.remap r).anomalies (m.remap r) v n s = (a.anomalies m v n s).map (Anomaly.remap r)
  := by
  rw [anomalies, anomalies, remap]
  cases a.lists with
  | none => rfl
  | some lists =>
    rw [← lengthAnomalies_remap, ← List.length_map (List.map r.annotation)]
    rfl

end ParameterAnnotations

namespace Method

theorem length_parameters_remap
    (m : Method) :
  (m.remap r).parameters.length = m.parameters.length
  := List.length_map _

theorem aligned_remap
    (synthetic : List FieldType) (m : Method) :
  (m.remap r).aligned (synthetic.map (FieldType.remap r)) = (m.aligned synthetic).remap r
  := by
  have hstarts := m.descriptor.startsWith_remap r synthetic
  by_cases h : m.descriptor.StartsWith synthetic
  · rw [aligned_of_startsWith h, aligned_of_startsWith (m := m.remap r) (hstarts.mpr h),
      length_parameters_remap, List.length_map]
    simp only [remap, ParameterAnnotations.aligned_remap]
  · rw [aligned_of_not_startsWith h,
      aligned_of_not_startsWith (m := m.remap r) (fun h' => h (hstarts.mp h'))]

theorem anomalies_remap
    (synthetic : List FieldType) (m : Method) :
  (m.remap r).anomalies (synthetic.map (FieldType.remap r))
    = (m.anomalies synthetic).map (Anomaly.remap r)
  := by
  have hstarts : (m.remap r).descriptor.StartsWith (synthetic.map (FieldType.remap r))
      ↔ m.descriptor.StartsWith synthetic := m.descriptor.startsWith_remap r synthetic
  have hreference : (m.remap r).reference = m.reference.remap r := rfl
  rw [anomalies, anomalies, hreference, length_parameters_remap, List.length_map]
  by_cases h : m.descriptor.StartsWith synthetic
  · rw [if_pos h, if_pos (hstarts.mpr h), List.map_append, ← ParameterAnnotations.anomalies_remap,
      ← ParameterAnnotations.anomalies_remap]
    rfl
  · rw [if_neg h, if_neg (fun h' => h (hstarts.mp h'))]
    rfl

end Method

/-! ### Stripping -/

namespace MethodBody

theorem namedVariables?_remap
    (b : MethodBody) :
  (b.remap r).namedVariables? = b.namedVariables?.map (LocalVariableTable.remap r)
  := by
  have hempty : ∀ table : LocalVariableTable, (table.remap r).isEmpty = table.isEmpty := by
    intro table
    apply List.isEmpty_map
  rw [namedVariables?, remap, namedVariables?, Option.filter_map]
  simp only [Function.comp_def, hempty]

theorem stripped_remap
    (b : MethodBody) :
  (b.remap r).stripped = b.stripped.remap r
  := by
  rw [stripped, namedVariables?_remap, stripped]
  cases b.namedVariables? <;> rfl

end MethodBody

theorem Method.stripped_remap
    (m : Method) :
  (m.remap r).stripped = m.stripped.remap r
  := by
  simp only [stripped, remap, Option.map_map, Function.comp_def, MethodBody.stripped_remap]

/-! ### Classes -/

namespace Class

theorem alignedMethod_remap
    (c : Class) (m : Method) :
  (c.remap r).alignedMethod (m.remap r) = (c.alignedMethod m).remap r
  := by
  have hexpected := c.expectedSyntheticParameters_remap r
  cases h : c.expectedSyntheticParameters with
  | none =>
    rw [h] at hexpected
    rw [alignedMethod_of_none h, alignedMethod_of_none hexpected]
  | some synthetic =>
    rw [h] at hexpected
    rw [alignedMethod_of_some h, alignedMethod_of_some hexpected, Method.aligned_remap,
      apply_ite (Method.remap r)]
    -- The two tests for a constructor are the same, since methods keep their names.
    rfl

theorem methodAnomalies_remap
    (c : Class) (m : Method) :
  (c.remap r).methodAnomalies (m.remap r) = (c.methodAnomalies m).map (Anomaly.remap r)
  := by
  have hexpected := c.expectedSyntheticParameters_remap r
  cases h : c.expectedSyntheticParameters with
  | none =>
    rw [h] at hexpected
    rw [methodAnomalies_of_none h, methodAnomalies_of_none hexpected]
    rfl
  | some synthetic =>
    rw [h] at hexpected
    rw [methodAnomalies_of_some h, methodAnomalies_of_some hexpected, Method.anomalies_remap,
      apply_ite (List.map (Anomaly.remap r))]
    rfl

/-- Alignment of a remapped class is the remapped aligned class. -/
theorem aligned_remap
    (c : Class) :
  (c.remap r).aligned = c.aligned.remap r
  := by
  have hmethods : (c.remap r).methods.map (c.remap r).alignedMethod
      = c.aligned.methods.map (Method.remap r) := calc
    (c.methods.map (Method.remap r)).map (c.remap r).alignedMethod
      = c.methods.map fun m => (c.remap r).alignedMethod (m.remap r) := List.map_map
    _ = c.methods.map fun m => (c.alignedMethod m).remap r := by
      simp only [alignedMethod_remap]
    _ = (c.methods.map c.alignedMethod).map (Method.remap r) := by
      rw [List.map_map]
      rfl
  rw [aligned, hmethods]
  rfl

/-- Stripping a remapped class is the remapped stripped class. -/
theorem stripped_remap
    (c : Class) :
  (c.remap r).stripped = c.stripped.remap r
  := by
  simp only [stripped, remap, List.map_map, Function.comp_def, Method.stripped_remap]

/-- The anomalies of a remapped class are its remapped anomalies. -/
theorem anomalies_remap
    (c : Class) :
  (c.remap r).anomalies = c.anomalies.map (Anomaly.remap r)
  := by
  have hmethods : (c.remap r).methods = c.methods.map (Method.remap r) := rfl
  rw [anomalies, hmethods, List.flatMap_map, anomalies, List.map_flatMap]
  simp only [methodAnomalies_remap]

end Class

end Equivariance

/-! ### The standard pipeline -/

/-- With a host that keeps annotable parameter counts, the standard pipeline turns a
remapped class into the remapped result for the class, and reports its remapped
anomalies. -/
theorem Pipeline.transform_remapped
    (config : Config) (hhost : HostCapability.annotableParameterCount ∈ config.host) :
  ∃ p, standard config = .ok p ∧ ∀ (r : Remapping) (c : Class),
    (p.transform (c.remap r)).value = (p.transform c).value.remap r
      ∧ (p.transform (c.remap r)).anomalies = (p.transform c).anomalies.map (Anomaly.remap r)
  := by
  obtain ⟨p, hp⟩ := exists_standard hhost
  use p, hp
  intro r c
  rw [value_transform_of_standard hp, value_transform_of_standard hp,
    anomalies_transform_of_standard hp, anomalies_transform_of_standard hp,
    Class.aligned_remap, Class.stripped_remap, Class.anomalies_remap]
  constructor
  · rfl
  · rfl

/-- The remapping that exchanges two names and removes the values of all annotations. -/
def Remapping.exchange (a b : ClassName) (ha : a ≠ .string) (hb : b ≠ .string) : Remapping where
  name := Equiv.swap a b
  name_injective := (Equiv.swap a b).injective
  name_string := Equiv.swap_apply_of_ne_of_ne ha.symm hb.symm
  annotation x := .marker x.type

/-- An inner class with two constructors.  The first begins with its synthetic parameter,
for which its annotations have an entry, and the second does not. -/
def Class.wheel : Class where
  flags := ∅
  name := ⟨"Car$Wheel"⟩
  innerClasses := [⟨⟨"Car$Wheel"⟩, some ⟨"Car"⟩, some "Wheel", ∅⟩]
  methods :=
    [{ flags := ∅
       name := Method.constructorName
       descriptor := ⟨[.object ⟨"Car"⟩, .base .int], .void⟩
       owner := ⟨"Car$Wheel"⟩
       visible := { lists := some [[], [⟨.object ⟨"Size"⟩, [⟨"unit", .string "cm"⟩]⟩]] } },
     { flags := ∅
       name := Method.constructorName
       descriptor := ⟨[.base .int], .void⟩
       owner := ⟨"Car$Wheel"⟩ }]

/-- The class `Class.wheel` with the name of its outer class exchanged for `a`.  The
anomaly is about the new name, and the annotations that are left have lost their values. -/
theorem Pipeline.transform_remapped_wheel :
  let r := Remapping.exchange ⟨"Car"⟩ ⟨"a"⟩ (by decide) (by decide)
  HostCapability.annotableParameterCount ∈ ({} : Config).host
    ∧ ∃ p, standard {} = .ok p
      ∧ (p.transform (Class.wheel.remap r)).value = (p.transform .wheel).value.remap r
      ∧ (p.transform (Class.wheel.remap r)).anomalies
        = [.missingSynthetic ⟨⟨"Car$Wheel"⟩, "<init>", ⟨[.base .int], .void⟩⟩ [.object ⟨"a"⟩]]
      ∧ ((p.transform .wheel).value.remap r).methods.map (fun m => m.visible.lists)
        = [some [[.marker (.object ⟨"Size"⟩)]], none]
  := by
  intro r
  have hhost : HostCapability.annotableParameterCount ∈ ({} : Config).host := by decide
  obtain ⟨p, hp, hremapped⟩ := Pipeline.transform_remapped {} hhost
  obtain ⟨hvalue, hanomalies⟩ := hremapped r .wheel
  cases hp
  exact ⟨hhost, _, rfl, hvalue, hanomalies, rfl⟩

end ClassFile
