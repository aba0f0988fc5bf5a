import ClassFile.Proofs.Normalize.Stages

/-!
# The normal form of a class

A class is normalized when its bodies name no variable, and when no list of a constructor
that begins with the synthetic parameters of the class has an entry for each parameter
and every such list has its length as the count, if that fits.  The definition speaks of
the class alone and of no pass.

The normalized classes are the fixed points of the standard pipeline, and the pipeline
reaches one in a single run.  At each level there is a lemma that says when a pass leaves
something as it is; the fixed points of both passes together are those of each, since the
passes are idempotent and commute.
-/

namespace ClassFile

/-! ### Fixed points of stripping -/

namespace MethodBody

/-- A body is bare when its local variable table, if there is one, is empty. -/
def Bare (b : MethodBody) : Prop :=
  ∀ table, b.localVariables = some table → table.entries = []

theorem namedVariables?_eq_none_iff
    {b : MethodBody} :
  b.namedVariables? = none ↔ b.Bare
  := by
  rw [namedVariables?, Option.filter_eq_none_iff, Bare]
  simp [LocalVariableTable.isEmpty]

/-- The bodies that stripping leaves as they are. -/
theorem stripped_eq_self_iff
    {b : MethodBody} :
  b.stripped = b ↔ b.Bare
  := by
  rw [← namedVariables?_eq_none_iff, stripped]
  cases h : b.namedVariables? with
  | none => simp
  | some table =>
    have hsome : b.localVariables = some table := Option.eq_some_of_filter_eq_some h
    constructor
    · intro hself
      have hnone : none = b.localVariables := congrArg localVariables hself
      rw [hsome] at hnone
      contradiction
    · intro hnone
      contradiction

end MethodBody

namespace Method

/-- A method is bare when its body, if it has one, is. -/
def Bare (m : Method) : Prop := ∀ b, m.body = some b → b.Bare

/-- The methods that stripping leaves as they are. -/
theorem stripped_eq_self_iff
    {m : Method} :
  m.stripped = m ↔ m.Bare
  := by
  rw [Bare]
  constructor
  · intro hself b hb
    have hbody : m.body.map MethodBody.stripped = m.body := congrArg body hself
    rw [hb] at hbody
    apply MethodBody.stripped_eq_self_iff.mp
    apply Option.some.inj hbody
  · intro hbare
    have hbody : m.body.map MethodBody.stripped = m.body := by
      cases hb : m.body with
      | none => rfl
      | some b => rw [Option.map_some, MethodBody.stripped_eq_self_iff.mpr (hbare b hb)]
    rw [stripped, hbody]

end Method

/-! ### Fixed points of alignment -/

namespace ParameterAnnotations

/-- Annotations of a constructor with `n` parameters are in line when their list, if there
is one, has some other length than `n`, and that length as the count if it fits. -/
def InLine (n : Nat) (a : ParameterAnnotations) : Prop :=
  ∀ lists, a.lists = some lists →
    lists.length ≠ n ∧ (lists.length ≤ 255 → a.count = some (UInt8.ofNat lists.length))

/-- The lists that trimming leaves as they are, if there is something to remove. -/
theorem trim_eq_self_iff
    {n s : Nat} (hpos : 0 < s) (hle : s ≤ n) {lists : List (List Annotation)} :
  trim n s lists = lists ↔ lists.length ≠ n
  := by
  constructor
  · intro hself hlength
    have := congrArg List.length hself
    rw [length_trim, if_pos hlength] at this
    omega
  · intro hlength
    rw [trim, if_neg hlength]

/-- The counts that a list of length `k` leaves as they are. -/
theorem count?_orElse_eq_self_iff
    {k : Nat} {count : Option UInt8} :
  (count? k <|> count) = count ↔ (k ≤ 255 → count = some (UInt8.ofNat k))
  := by
  rw [count?]
  split
  · next hfits =>
    constructor
    · intro hself _
      apply hself.symm
    · intro hcount
      apply (hcount hfits).symm
  · next hlarge => simp [hlarge]

/-- The annotations that alignment leaves as they are, if there is something to remove. -/
theorem aligned_eq_self_iff
    {n s : Nat} (hpos : 0 < s) (hle : s ≤ n) {a : ParameterAnnotations} :
  a.aligned n s = a ↔ a.InLine n
  := by
  rw [InLine]
  cases h : a.lists with
  | none => simp [aligned_of_none h]
  | some lists =>
    rw [aligned_of_some h]
    constructor
    · rintro hself _ ⟨⟩
      have hlists : some (trim n s lists) = a.lists := congrArg ParameterAnnotations.lists hself
      have hcount : (count? (trim n s lists).length <|> a.count) = a.count :=
        congrArg count hself
      have htrim : trim n s lists = lists := Option.some.inj (hlists.trans h)
      rw [htrim] at hcount
      use (trim_eq_self_iff hpos hle).mp htrim
      apply count?_orElse_eq_self_iff.mp hcount
    · intro hinline
      obtain ⟨hlength, hcount⟩ := hinline lists rfl
      rw [(trim_eq_self_iff hpos hle).mpr hlength, withLists,
        count?_orElse_eq_self_iff.mpr hcount, ← h]

end ParameterAnnotations

namespace Method

/-- A constructor is in line when both its annotations are, provided that it begins with
the synthetic parameters. -/
def InLine (synthetic : List FieldType) (m : Method) : Prop :=
  m.descriptor.StartsWith synthetic → ∀ v, (m.annotations v).InLine m.parameters.length

/-- The constructors that alignment leaves as they are, if there are synthetic
parameters. -/
theorem aligned_eq_self_iff
    {synthetic : List FieldType} (hne : synthetic ≠ []) {m : Method} :
  m.aligned synthetic = m ↔ m.InLine synthetic
  := by
  have hpos : 0 < synthetic.length := List.length_pos_iff.mpr hne
  constructor
  · intro hself hstarts v
    have hle : synthetic.length ≤ m.parameters.length := hstarts.length_le
    apply (ParameterAnnotations.aligned_eq_self_iff hpos hle).mp
    have hannotations := congrArg (annotations · v) hself
    rw [annotations_aligned, if_pos hstarts] at hannotations
    apply hannotations
  · intro hinline
    by_cases hstarts : m.descriptor.StartsWith synthetic
    · have hle : synthetic.length ≤ m.parameters.length := hstarts.length_le
      have hannotations : ∀ v,
          (m.annotations v).aligned m.parameters.length synthetic.length = m.annotations v := by
        intro v
        apply (ParameterAnnotations.aligned_eq_self_iff hpos hle).mpr (hinline hstarts v)
      rw [aligned_of_startsWith hstarts]
      have hvisible : m.visible.aligned _ _ = m.visible := hannotations .visible
      have hinvisible : m.invisible.aligned _ _ = m.invisible := hannotations .invisible
      rw [hvisible, hinvisible]
    · apply aligned_of_not_startsWith hstarts

end Method

/-! ### Normalized classes -/

/-- A kind that has synthetic parameters has at least one. -/
theorem Classification.syntheticParameters_ne_nil
    {kind : Classification} {synthetic : List FieldType}
    (h : kind.syntheticParameters = some synthetic) :
  synthetic ≠ []
  := by
  cases kind with
  | enumClass =>
    cases h
    simp
  | innerClass outer =>
    cases h
    simp
  | notInner => contradiction
  | staticOrInterface => contradiction
  | anonymous => contradiction
  | localClass => contradiction

namespace Class

/-- A class is normalized when its methods are bare and its constructors are in line with
the synthetic parameters of the class, if it is of a kind that has them. -/
structure Normalized (c : Class) : Prop where
  bare : ∀ m ∈ c.methods, m.Bare
  inLine : ∀ synthetic, c.expectedSyntheticParameters = some synthetic →
    ∀ m ∈ c.methods, m.IsConstructor → m.InLine synthetic

/-- A step made for each method leaves a class as it is when it does so with each of
them. -/
theorem withMethods_map_eq_self_iff
    {c : Class} {f : Method → Method} :
  { c with methods := c.methods.map f } = c ↔ ∀ m ∈ c.methods, f m = m
  := by
  have hmap : c.methods.map f = c.methods.map id ↔ ∀ m ∈ c.methods, f m = m :=
    List.map_inj_left
  rw [← hmap, List.map_id]
  constructor
  · intro hself
    apply congrArg methods hself
  · intro hself
    rw [hself]

/-- The classes that stripping leaves as they are. -/
theorem stripped_eq_self_iff
    {c : Class} :
  c.stripped = c ↔ ∀ m ∈ c.methods, m.Bare
  := by
  rw [stripped, withMethods_map_eq_self_iff]
  simp only [Method.stripped_eq_self_iff]

/-- The classes that alignment leaves as they are. -/
theorem aligned_eq_self_iff
    {c : Class} :
  c.aligned = c
    ↔ ∀ synthetic, c.expectedSyntheticParameters = some synthetic →
        ∀ m ∈ c.methods, m.IsConstructor → m.InLine synthetic
  := by
  rw [aligned, withMethods_map_eq_self_iff]
  cases h : c.expectedSyntheticParameters with
  | none => simp [alignedMethod_of_none h]
  | some synthetic =>
    have hne := Classification.syntheticParameters_ne_nil h
    simp only [alignedMethod_of_some h, ite_eq_right_iff, Option.some.injEq, forall_eq',
      Method.aligned_eq_self_iff hne]

/-- What both passes together leave as it is, each of them does. -/
theorem aligned_stripped_eq_self_iff
    {c : Class} :
  c.aligned.stripped = c ↔ c.stripped = c ∧ c.aligned = c
  := by
  constructor
  · intro hself
    have hstripped : c.stripped = c := calc
      c.stripped = c.aligned.stripped.stripped := by rw [hself]
      _ = c.aligned.stripped := c.aligned.stripped_stripped
      _ = c := hself
    have haligned : c.aligned = c := calc
      c.aligned = c.stripped.aligned := by rw [hstripped]
      _ = c.aligned.stripped := c.aligned_stripped
      _ = c := hself
    use hstripped
  · rintro ⟨hstripped, haligned⟩
    rw [haligned, hstripped]

/-- The normalized classes are those that both passes together leave as they are. -/
theorem aligned_stripped_eq_self_iff_normalized
    {c : Class} :
  c.aligned.stripped = c ↔ c.Normalized
  := by
  rw [aligned_stripped_eq_self_iff, stripped_eq_self_iff, aligned_eq_self_iff]
  constructor
  · rintro ⟨hbare, hinline⟩
    constructor
    · apply hbare
    · apply hinline
  · intro h
    use h.bare
    apply h.inLine

/-- Both passes together make every class normalized. -/
theorem normalized_aligned_stripped
    (c : Class) :
  c.aligned.stripped.Normalized
  := by
  apply aligned_stripped_eq_self_iff_normalized.mp
  rw [aligned_stripped, aligned_aligned, stripped_stripped]

end Class

/-! ### The standard pipeline -/

/-- With a host that keeps annotable parameter counts, the standard pipeline makes every
class normalized, and the classes that it leaves as they are, are exactly those that were
normalized before. -/
theorem Pipeline.transform_normal_form
    (config : Config) (hhost : HostCapability.annotableParameterCount ∈ config.host) :
  ∃ p, standard config = .ok p ∧ ∀ c : Class,
    (p.transform c).value.Normalized
      ∧ ((p.transform c).value = c ↔ c.Normalized)
  := by
  obtain ⟨p, hp⟩ := exists_standard hhost
  use p, hp
  intro c
  rw [value_transform_of_standard hp]
  use c.normalized_aligned_stripped
  apply Class.aligned_stripped_eq_self_iff_normalized

/-- The class `Class.planet` is not normalized, since the pipeline gives its visible
annotations a count, and it is so after one run. -/
theorem Pipeline.transform_normal_form_planet :
  HostCapability.annotableParameterCount ∈ ({} : Config).host
    ∧ ∃ p, standard {} = .ok p
      ∧ (p.transform .planet).value.Normalized
      ∧ (p.transform (p.transform .planet).value).value = (p.transform .planet).value
      ∧ ¬ Class.planet.Normalized
  := by
  have hhost : HostCapability.annotableParameterCount ∈ ({} : Config).host := by decide
  obtain ⟨p, hp, hforms⟩ := Pipeline.transform_normal_form {} hhost
  obtain ⟨hnormalized, hfixed⟩ := hforms .planet
  obtain ⟨-, hfixed'⟩ := hforms (p.transform .planet).value
  use hhost, p, hp, hnormalized, hfixed'.mpr hnormalized
  intro hplanet
  have hcounts := congrArg (fun c => c.methods.map fun m => m.visible.count)
    (hfixed.mpr hplanet)
  cases hp
  have hdiffer : [some (1 : UInt8)] = [none] := hcounts
  contradiction

end ClassFile
