import ClassFile.Proofs.Normalize.Stages

/-!
# Which classes have anomalies

The anomalies that the standard pipeline reports are a function of the class before the
run: those of its constructors, in their order.  The classes without anomalies are the
regular ones, in which the lists of every constructor have one of the two lengths that are
expected.  After the run all lists of a regular class have the same length, one entry for
each parameter of the source, and that length as the count.
-/

namespace ClassFile

/-! ### Annotations of one visibility -/

namespace ParameterAnnotations

/-- Annotations are regular when their list, if there is one, has an entry for each of the
`n` parameters or for each but the first `s`, and the number of the latter fits the
count. -/
def Regular (n s : Nat) (a : ParameterAnnotations) : Prop :=
  ∀ lists, a.lists = some lists →
    (lists.length = n ∨ lists.length = n - s) ∧ n - s ≤ 255

/-- Annotations have `k` entries when their list, if there is one, has that length and the
count says so. -/
def HasEntries (k : Nat) (a : ParameterAnnotations) : Prop :=
  ∀ lists, a.lists = some lists → lists.length = k ∧ a.count = some (UInt8.ofNat k)

/-- A list has no anomaly exactly when its length is one of the two that are expected and
the shorter one of them fits the count. -/
theorem lengthAnomalies_eq_nil_iff
    {m : MethodRef} {v : Visibility} {n s k : Nat} :
  lengthAnomalies m v n s k = [] ↔ (k = n ∨ k = n - s) ∧ n - s ≤ 255
  := by
  rw [lengthAnomalies]
  by_cases hlength : k = n ∨ k = n - s
  · by_cases hfits : n - s ≤ 255 <;> simp [hlength, hfits]
  · simp [hlength]

/-- The annotations without anomalies are the regular ones. -/
theorem anomalies_eq_nil_iff
    {m : MethodRef} {v : Visibility} {n s : Nat} {a : ParameterAnnotations} :
  a.anomalies m v n s = [] ↔ a.Regular n s
  := by
  rw [anomalies, Regular]
  cases a.lists with
  | none => simp
  | some lists => simp [lengthAnomalies_eq_nil_iff]

/-- Regular annotations have, once aligned, an entry for each parameter that is not
synthetic. -/
theorem Regular.hasEntries_aligned
    {n s : Nat} {a : ParameterAnnotations} (h : a.Regular n s) :
  (a.aligned n s).HasEntries (n - s)
  := by
  intro lists' hlists'
  rw [lists_aligned] at hlists'
  obtain ⟨lists, hlists, rfl⟩ := Option.map_eq_some_iff.mp hlists'
  obtain ⟨hlength, hfits⟩ := h lists hlists
  have htrim : (trim n s lists).length = n - s := by
    rw [length_trim]
    split <;> omega
  constructor
  · apply htrim
  · rw [aligned_of_some hlists, withLists, htrim, count?, if_pos hfits]
    rfl

end ParameterAnnotations

/-! ### Constructors and classes -/

namespace Method

/-- A constructor is regular when it begins with the synthetic parameters and its
annotations are regular. -/
def Regular (synthetic : List FieldType) (m : Method) : Prop :=
  m.descriptor.StartsWith synthetic
    ∧ ∀ v, (m.annotations v).Regular m.parameters.length synthetic.length

/-- The constructors without anomalies are the regular ones. -/
theorem anomalies_eq_nil_iff
    {synthetic : List FieldType} {m : Method} :
  m.anomalies synthetic = [] ↔ m.Regular synthetic
  := by
  rw [anomalies, Regular]
  by_cases h : m.descriptor.StartsWith synthetic
  · rw [if_pos h, List.append_eq_nil_iff, ParameterAnnotations.anomalies_eq_nil_iff,
      ParameterAnnotations.anomalies_eq_nil_iff]
    constructor
    · rintro ⟨hvisible, hinvisible⟩
      use h
      intro v
      cases v with
      | visible => apply hvisible
      | invisible => apply hinvisible
    · rintro ⟨-, hannotations⟩
      use hannotations .visible
      apply hannotations .invisible
  · simp [h]

/-- A regular constructor has, once aligned, an entry for each parameter that is not
synthetic. -/
theorem Regular.hasEntries_aligned
    {synthetic : List FieldType} {m : Method} (h : m.Regular synthetic) (v : Visibility) :
  ((m.aligned synthetic).annotations v).HasEntries (m.parameters.length - synthetic.length)
  := by
  rw [annotations_aligned, if_pos h.1]
  apply (h.2 v).hasEntries_aligned

end Method

namespace Class

/-- A class is regular when all constructors are, provided that it is of a kind with
synthetic parameters. -/
def Regular (c : Class) : Prop :=
  ∀ synthetic, c.expectedSyntheticParameters = some synthetic →
    ∀ m ∈ c.methods, m.IsConstructor → m.Regular synthetic

/-- The classes without anomalies are the regular ones. -/
theorem anomalies_eq_nil_iff
    {c : Class} :
  c.anomalies = [] ↔ c.Regular
  := by
  rw [anomalies, List.flatMap_eq_nil_iff, Regular]
  cases h : c.expectedSyntheticParameters with
  | none => simp [methodAnomalies_of_none h]
  | some synthetic =>
    simp only [methodAnomalies_of_some h, ite_eq_right_iff, Method.anomalies_eq_nil_iff,
      Option.some.injEq]
    constructor
    · rintro hall _ rfl m hm hconstructor
      apply hall m hm hconstructor
    · intro hall m hm hconstructor
      apply hall synthetic rfl m hm hconstructor

/-- The constructors of a regular class have, once aligned, an entry for each parameter
that is not synthetic. -/
theorem Regular.hasEntries_aligned
    {c : Class} (h : c.Regular) {synthetic : List FieldType}
    (hsynthetic : c.expectedSyntheticParameters = some synthetic)
    {m : Method} (hm : m ∈ c.aligned.methods) (hconstructor : m.IsConstructor)
    (v : Visibility) :
  (m.annotations v).HasEntries (m.parameters.length - synthetic.length)
  := by
  obtain ⟨m₀, hm₀, rfl⟩ := List.mem_map.mp hm
  have hmethod := alignedMethod_of_some hsynthetic m₀
  by_cases hconstructor₀ : m₀.IsConstructor
  · rw [hmethod, if_pos hconstructor₀, Method.parameters, Method.descriptor_aligned]
    apply (h synthetic hsynthetic m₀ hm₀ hconstructor₀).hasEntries_aligned
  · rw [hmethod, if_neg hconstructor₀] at hconstructor
    contradiction

end Class

/-! ### The standard pipeline -/

/-- With a host that keeps annotable parameter counts, the anomalies that the standard
pipeline reports are those of the methods of the class before the run, in their order.
There are none exactly when the class is regular, and then every list of a constructor has
afterwards an entry for each parameter that is not synthetic, and the count says so. -/
theorem Pipeline.anomalies_determined
    (config : Config) (hhost : HostCapability.annotableParameterCount ∈ config.host) :
  ∃ p, standard config = .ok p ∧ ∀ c : Class,
    (p.transform c).anomalies = c.methods.flatMap c.methodAnomalies
      ∧ ((p.transform c).anomalies = [] ↔ c.Regular)
      ∧ ((p.transform c).anomalies = [] →
          ∀ synthetic, c.expectedSyntheticParameters = some synthetic →
            ∀ m ∈ (p.transform c).value.methods, m.IsConstructor →
              ∀ v, (m.annotations v).HasEntries (m.parameters.length - synthetic.length))
  := by
  obtain ⟨p, hp⟩ := exists_standard hhost
  use p, hp
  intro c
  rw [anomalies_transform_of_standard hp, value_transform_of_standard hp,
    Class.anomalies_eq_nil_iff]
  constructor
  · rfl
  constructor
  · rfl
  · intro hregular synthetic hsynthetic m hm hconstructor v
    obtain ⟨m₀, hm₀, rfl⟩ := List.mem_map.mp hm
    rw [Method.annotations_stripped]
    apply hregular.hasEntries_aligned hsynthetic hm₀ hconstructor

/-- The class `Class.planet` has one anomaly, for its list of unexpected length. -/
theorem Pipeline.anomalies_determined_planet :
  HostCapability.annotableParameterCount ∈ (⟨true, {.annotableParameterCount}⟩ : Config).host
    ∧ ∃ p, standard ⟨true, {.annotableParameterCount}⟩ = .ok p
      ∧ (p.transform .planet).anomalies
        = [.unexpectedCount ⟨⟨"Planet"⟩, "<init>",
            ⟨[.string, .base .int, .base .double], .void⟩⟩ .invisible 2]
      ∧ ¬ Class.planet.Regular
  := by
  have hhost : HostCapability.annotableParameterCount
      ∈ (⟨true, {.annotableParameterCount}⟩ : Config).host := by decide
  obtain ⟨p, hp, hplanet⟩ := Pipeline.anomalies_determined _ hhost
  obtain ⟨hanomalies, hregular, -⟩ := hplanet .planet
  use hhost, p, hp, hanomalies
  intro h
  rw [hanomalies] at hregular
  have hnone := hregular.mpr h
  contradiction

end ClassFile
