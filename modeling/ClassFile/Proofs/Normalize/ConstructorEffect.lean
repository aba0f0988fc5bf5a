import ClassFile.Proofs.Normalize.Alignment
import Mathlib.Tactic.Use

/-!
# The effect of aligning a constructor

What the alignment of one constructor does to it, and what the anomalies that it reports
say about that.  A constructor that does not begin with the synthetic parameters stays as
it is.  In any other one the annotations of each visibility are aligned on their own
(`ParameterAnnotations.AlignedAs`), and nothing else changes.

A list of an unexpected length is reported and left alone.  But the same anomaly is also
reported of a list of an expected length, if what is left of it does not fit the count,
and then the entries of the synthetic parameters are gone all the same.
-/

namespace ClassFile

/-! ### Annotations of one visibility -/

namespace ParameterAnnotations

/-- The relation of the annotations of a constructor with `n` parameters, the first `s` of
which are synthetic, to what they have become. -/
structure AlignedAs (n s : Nat) (a a' : ParameterAnnotations) : Prop where
  /-- Without a list nothing happens. -/
  absent : a.lists = none → a' = a
  /-- A list with an entry for each parameter loses the first `s`. -/
  padded : ∀ lists, a.lists = some lists → lists.length = n →
    a'.lists = some (lists.drop s)
  /-- The entry of a parameter that is not synthetic stays with it. -/
  entries : ∀ lists lists', a.lists = some lists → a'.lists = some lists' →
    lists.length = n → lists'.length = n - s ∧ ∀ i < n - s, lists'[i]? = lists[s + i]?
  /-- A list of any other length stays as it is. -/
  other : ∀ lists, a.lists = some lists → lists.length ≠ n → a'.lists = some lists
  /-- The count is the length of the list if that fits. -/
  counted : ∀ lists', a'.lists = some lists' → lists'.length ≤ 255 →
    a'.count.map UInt8.toNat = some lists'.length
  /-- The count stays as it is if the length does not fit. -/
  uncounted : ∀ lists', a'.lists = some lists' → 255 < lists'.length → a'.count = a.count

theorem count_withLists_of_le
    (a : ParameterAnnotations) {lists : List (List Annotation)} (h : lists.length ≤ 255) :
  (a.withLists lists).count.map UInt8.toNat = some lists.length
  := by
  have hcount : (a.withLists lists).count = some (UInt8.ofNat lists.length) := by
    rw [withLists, count?, if_pos h]
    rfl
  rw [hcount, Option.map_some, UInt8.toNat_ofNat_of_lt' (Nat.lt_succ_of_le h)]

theorem count_withLists_of_lt
    (a : ParameterAnnotations) {lists : List (List Annotation)} (h : 255 < lists.length) :
  (a.withLists lists).count = a.count
  := by
  rw [withLists, count?, if_neg (Nat.not_le_of_lt h)]
  rfl

/-- This is how aligned annotations are related to what they were. -/
theorem alignedAs_aligned
    (n s : Nat) (a : ParameterAnnotations) :
  a.AlignedAs n s (a.aligned n s)
  := by
  constructor
  · intro h
    apply aligned_of_none h
  · intro lists h hlength
    rw [lists_aligned, h, Option.map_some, trim, if_pos hlength]
  · intro lists lists' h h' hlength
    rw [lists_aligned, h, Option.map_some, trim, if_pos hlength] at h'
    obtain rfl := Option.some.inj h'
    rw [List.length_drop, hlength]
    use rfl
    intro i _
    apply List.getElem?_drop
  · intro lists h hlength
    rw [lists_aligned, h, Option.map_some, trim, if_neg hlength]
  · intro lists' h' hfits
    rw [lists_aligned] at h'
    obtain ⟨lists, h, rfl⟩ := Option.map_eq_some_iff.mp h'
    rw [aligned_of_some h]
    apply count_withLists_of_le a hfits
  · intro lists' h' hlarge
    rw [lists_aligned] at h'
    obtain ⟨lists, h, rfl⟩ := Option.map_eq_some_iff.mp h'
    rw [aligned_of_some h]
    apply count_withLists_of_lt a hlarge

/-- A list of `length` entries is reported with the count `k` when this is the length and
not an expected one, or when this is what is left of a list of an expected length and does
not fit the count. -/
def ReportedAs (n s length k : Nat) : Prop :=
  if length = n ∨ length = n - s then 255 < n - s ∧ k = n - s else k = length

theorem unexpectedCount_mem_lengthAnomalies_iff
    {m r : MethodRef} {v w : Visibility} {n s length k : Nat} :
  .unexpectedCount r w k ∈ lengthAnomalies m v n s length
    ↔ r = m ∧ w = v ∧ ReportedAs n s length k
  := by
  rw [lengthAnomalies, ReportedAs]
  split
  · split
    · next hfits => simp [Nat.not_lt_of_le hfits]
    · next hlarge => simp [Nat.lt_of_not_le hlarge]
  · simp

theorem unexpectedCount_mem_anomalies_iff
    {m r : MethodRef} {v w : Visibility} {n s k : Nat} {a : ParameterAnnotations} :
  .unexpectedCount r w k ∈ a.anomalies m v n s
    ↔ r = m ∧ w = v ∧ ∃ lists, a.lists = some lists ∧ ReportedAs n s lists.length k
  := by
  rw [anomalies]
  cases a.lists with
  | none => simp
  | some lists => simp [unexpectedCount_mem_lengthAnomalies_iff]

/-- A list of an expected length is reported if what is left of it does not fit. -/
theorem reportedAs_of_expected
    {n s length : Nat} (hlength : length = n ∨ length = n - s) (hlarge : 255 < n - s) :
  ReportedAs n s length (n - s)
  := by
  rw [ReportedAs, if_pos hlength]
  use hlarge

/-- A list is reported for its length if what is left of the expected ones fits, or if its
length is not one of them. -/
theorem ReportedAs.unexpected
    {n s length k : Nat} (h : ReportedAs n s length k)
    (hlength : n - s ≤ 255 ∨ length ≠ n ∧ length ≠ n - s) :
  k = length ∧ length ≠ n ∧ length ≠ n - s
  := by
  rw [ReportedAs] at h
  split at h <;> omega

/-- The count of a report is the length of the list once it is trimmed. -/
theorem ReportedAs.length_trim
    {n s k : Nat} {lists : List (List Annotation)} (h : ReportedAs n s lists.length k) :
  (trim n s lists).length = k
  := by
  rw [ParameterAnnotations.length_trim]
  rw [ReportedAs] at h
  split at h
  · split <;> omega
  · next hlength => rw [if_neg (fun hn => hlength (.inl hn)), h]

end ParameterAnnotations

/-! ### Constructors -/

namespace Method

/-- The anomalies of a constructor that begins with the synthetic parameters are about the
lists of its annotations. -/
theorem unexpectedCount_mem_anomalies_iff
    {synthetic : List FieldType} {m : Method} (h : m.descriptor.StartsWith synthetic)
    {r : MethodRef} {v : Visibility} {k : Nat} :
  .unexpectedCount r v k ∈ m.anomalies synthetic
    ↔ r = m.reference ∧ ∃ lists, (m.annotations v).lists = some lists
      ∧ ParameterAnnotations.ReportedAs m.parameters.length synthetic.length lists.length k
  := by
  rw [anomalies, if_pos h, List.mem_append,
    ParameterAnnotations.unexpectedCount_mem_anomalies_iff,
    ParameterAnnotations.unexpectedCount_mem_anomalies_iff]
  cases v with
  | visible => simp [annotations]
  | invisible => simp [annotations]

/-- The lists of a constructor that begins with the synthetic parameters are trimmed. -/
theorem lists_annotations_aligned
    {synthetic : List FieldType} {m : Method} (h : m.descriptor.StartsWith synthetic)
    (v : Visibility) :
  ((m.aligned synthetic).annotations v).lists
    = (m.annotations v).lists.map
        (ParameterAnnotations.trim m.parameters.length synthetic.length)
  := by
  rw [annotations_aligned, if_pos h, ParameterAnnotations.lists_aligned]

/-- A constructor of an inner class that takes the enclosing instance and `k` numbers.  Its
visible annotations have an entry for each parameter. -/
def padded (k : Nat) : Method where
  flags := ∅
  name := constructorName
  descriptor := ⟨.object ⟨"Outer"⟩ :: List.replicate k (.base .int), .void⟩
  owner := ⟨"Outer$Inner"⟩
  visible := { lists := some (List.replicate (k + 1) []) }

end Method

/-- A constructor that does not begin with the synthetic parameters stays as it is, in
particular if it has fewer parameters.  In any other one the annotations of both
visibilities are aligned, each on its own, and nothing else changes. -/
theorem AnnotationAligner.alignConstructor_effect
    (pass : AnnotationAligner) (synthetic : List FieldType) (m : Method) :
  (¬ synthetic <+: m.parameters → (pass.alignConstructor synthetic m).value = m)
    ∧ (m.parameters.length < synthetic.length →
        (pass.alignConstructor synthetic m).value = m)
    ∧ (synthetic <+: m.parameters →
        ∃ visible invisible,
          (pass.alignConstructor synthetic m).value = { m with visible, invisible }
            ∧ m.visible.AlignedAs m.parameters.length synthetic.length visible
            ∧ m.invisible.AlignedAs m.parameters.length synthetic.length invisible)
  := by
  rw [value_alignConstructor]
  have hmismatch : ¬ synthetic <+: m.parameters → m.aligned synthetic = m :=
    Method.aligned_of_not_startsWith
  use hmismatch
  constructor
  · intro hshort
    apply hmismatch
    intro hprefix
    apply Nat.not_lt_of_le hprefix.length_le hshort
  · intro hprefix
    use m.visible.aligned m.parameters.length synthetic.length,
      m.invisible.aligned m.parameters.length synthetic.length,
      Method.aligned_of_startsWith hprefix
    constructor
    · apply ParameterAnnotations.alignedAs_aligned
    · apply ParameterAnnotations.alignedAs_aligned

/-- One of the two entries of the visible list is removed.  The invisible list has an
unexpected length, so it stays and is only counted.  The constructor stays as it is if it
should begin with a number, or with more parameters than it has. -/
theorem AnnotationAligner.alignConstructor_effect_padded :
  let m : Method := { Method.padded 1 with invisible := { lists := some [[], [], []] } }
  let run (synthetic : List FieldType) : Method :=
    ((AnnotationAligner.mk true).alignConstructor synthetic m).value
  (¬ [.base .int] <+: m.parameters ∧ run [.base .int] = m)
    ∧ (m.parameters.length < 3 ∧ run (m.parameters ++ [.base .int]) = m)
    ∧ [.object ⟨"Outer"⟩] <+: m.parameters
    ∧ ∃ visible invisible,
        run [.object ⟨"Outer"⟩] = { m with visible, invisible }
          ∧ m.visible.AlignedAs 2 1 visible
          ∧ m.invisible.AlignedAs 2 1 invisible
          ∧ (visible.lists = some [[]] ∧ visible.count = some 1)
          ∧ invisible.lists = m.invisible.lists ∧ invisible.count = some 3
  := by
  intro m run
  have hmismatch : ¬ [.base .int] <+: m.parameters := by decide
  have hshort : m.parameters.length < 3 := by decide
  have hprefix : [.object ⟨"Outer"⟩] <+: m.parameters := by decide
  obtain ⟨hnone, -, -⟩ := AnnotationAligner.alignConstructor_effect ⟨true⟩ [.base .int] m
  obtain ⟨-, hlong, -⟩ :=
    AnnotationAligner.alignConstructor_effect ⟨true⟩ (m.parameters ++ [.base .int]) m
  obtain ⟨-, -, hsome⟩ :=
    AnnotationAligner.alignConstructor_effect ⟨true⟩ [.object ⟨"Outer"⟩] m
  obtain ⟨visible, invisible, hvalue, hvisible, hinvisible⟩ := hsome hprefix
  use ⟨hmismatch, hnone hmismatch⟩, ⟨hshort, hlong hshort⟩, hprefix, visible, invisible, hvalue,
    hvisible, hinvisible
  have hrun := congrArg (fun m : Method => (m.visible, m.invisible)) hvalue
  obtain ⟨rfl, rfl⟩ := Prod.mk.inj hrun
  exact ⟨⟨rfl, rfl⟩, rfl, rfl⟩

/-! ### What an anomaly says -/

namespace AnnotationAligner

/-- An aligner leaves alone what it reports of a constructor when each list it reports is
afterwards as it was, has the reported length, and this length is neither the number of all
parameters nor that of the parameters that are not synthetic. -/
def LeavesReported (pass : AnnotationAligner) (synthetic : List FieldType) (m : Method) :
    Prop :=
  ∀ r v k, .unexpectedCount r v k ∈ (pass.alignConstructor synthetic m).anomalies →
    ((pass.alignConstructor synthetic m).value.annotations v).lists = (m.annotations v).lists
      ∧ (m.annotations v).lists.map List.length = some k
      ∧ k ≠ m.parameters.length ∧ k ≠ m.parameters.length - synthetic.length

end AnnotationAligner

/-- Among the constructors that begin with the synthetic parameters, the aligner leaves
alone what it reports of exactly those in which the number of the other parameters fits
the count, or no list has one of the expected lengths.  In any case the reported number is
the length that the list has afterwards. -/
theorem AnnotationAligner.leavesReported_exactly
    (pass : AnnotationAligner) (synthetic : List FieldType) (m : Method)
    (h : synthetic <+: m.parameters) :
  (pass.LeavesReported synthetic m
      ↔ m.parameters.length - synthetic.length ≤ 255
        ∨ ∀ v lists, (m.annotations v).lists = some lists →
            lists.length ≠ m.parameters.length
              ∧ lists.length ≠ m.parameters.length - synthetic.length)
    ∧ ∀ r v k, .unexpectedCount r v k ∈ (pass.alignConstructor synthetic m).anomalies →
        ((pass.alignConstructor synthetic m).value.annotations v).lists.map List.length
          = some k
  := by
  have hstarts : m.descriptor.StartsWith synthetic := h
  rw [LeavesReported, value_alignConstructor, anomalies_alignConstructor]
  simp only [Method.unexpectedCount_mem_anomalies_iff hstarts,
    Method.lists_annotations_aligned hstarts]
  constructor
  · constructor
    · intro hleaves
      obtain hlarge | hfits := Nat.lt_or_ge 255 (m.parameters.length - synthetic.length)
      · right
        intro v lists hlists
        apply not_or.mp
        intro hlength
        -- The list would be reported with a count that is an expected length.
        have hreported := ParameterAnnotations.reportedAs_of_expected hlength hlarge
        obtain ⟨-, -, -, hne⟩ := hleaves m.reference v _ ⟨rfl, lists, hlists, hreported⟩
        contradiction
      · left
        apply hfits
    · rintro hregular r v k ⟨-, lists, hlists, hreported⟩
      have hlength := hregular.imp_right fun hall => hall v lists hlists
      obtain ⟨rfl, hn, hns⟩ := hreported.unexpected hlength
      rw [hlists, Option.map_some, Option.map_some, ParameterAnnotations.trim, if_neg hn]
      use rfl, rfl, hn
  · rintro r v k ⟨-, lists, hlists, hreported⟩
    rw [hlists, Option.map_some, Option.map_some, hreported.length_trim]

/-- Two parameters, one of them synthetic, and an invisible list of three entries, which is
reported and left alone. -/
theorem AnnotationAligner.leavesReported_exactly_padded :
  let m : Method := { Method.padded 1 with invisible := { lists := some [[], [], []] } }
  [.object ⟨"Outer"⟩] <+: m.parameters
    ∧ ((mk true).alignConstructor [.object ⟨"Outer"⟩] m).anomalies
      = [.unexpectedCount m.reference .invisible 3]
    ∧ (mk true).LeavesReported [.object ⟨"Outer"⟩] m
    ∧ (((mk true).alignConstructor [.object ⟨"Outer"⟩] m).value.annotations
        .invisible).lists.map List.length = some 3
  := by
  intro m
  have hprefix : [.object ⟨"Outer"⟩] <+: m.parameters := by decide
  have hanomalies : ((mk true).alignConstructor [.object ⟨"Outer"⟩] m).anomalies
      = [.unexpectedCount m.reference .invisible 3] := rfl
  obtain ⟨hiff, hlength⟩ :=
    AnnotationAligner.leavesReported_exactly ⟨true⟩ [.object ⟨"Outer"⟩] m hprefix
  use hprefix, hanomalies
  constructor
  · apply hiff.mpr
    left
    decide
  · apply hlength m.reference
    rw [hanomalies]
    apply List.mem_singleton_self

namespace Method

theorem startsWith_padded
    (k : Nat) :
  (padded k).descriptor.StartsWith [.object ⟨"Outer"⟩]
  := by
  use List.replicate k (.base .int)
  rfl

theorem length_parameters_padded
    (k : Nat) :
  (padded k).parameters.length = k + 1
  := by
  rw [parameters, padded, List.length_cons, List.length_replicate]

/-- The entry of the enclosing instance is removed, however many parameters there are. -/
theorem lists_visible_aligned_padded
    (k : Nat) :
  (((padded k).aligned [.object ⟨"Outer"⟩]).annotations .visible).lists
    = some (List.replicate k [])
  := by
  have hlength : (List.replicate (k + 1) ([] : List Annotation)).length = k + 1 :=
    List.length_replicate
  rw [lists_annotations_aligned (startsWith_padded k), length_parameters_padded]
  apply congrArg some
  rw [ParameterAnnotations.trim, if_pos hlength]
  rfl

/-- If the number of the other parameters does not fit the count, it is reported. -/
theorem anomalies_padded
    {k : Nat} (h : 255 < k) :
  (padded k).anomalies [.object ⟨"Outer"⟩]
    = [.unexpectedCount (padded k).reference .visible k]
  := by
  have hvisible : (padded k).visible.anomalies (padded k).reference .visible (k + 1) 1
      = [.unexpectedCount (padded k).reference .visible k] := by
    have hlength : (List.replicate (k + 1) ([] : List Annotation)).length = k + 1 :=
      List.length_replicate
    apply Eq.trans (if_pos (.inl hlength))
    apply if_neg (Nat.not_le_of_lt h)
  rw [anomalies, if_pos (startsWith_padded k), length_parameters_padded, List.length_singleton,
    hvisible]
  rfl

end Method

/-- With 256 parameters that are not synthetic, a list with an entry for each of the 257
parameters is reported although it has an expected length, and it is not left alone. -/
theorem AnnotationAligner.padded_not_leavesReported :
  let m := Method.padded 256
  let report := (mk false).alignConstructor [.object ⟨"Outer"⟩] m
  [.object ⟨"Outer"⟩] <+: m.parameters
    ∧ report.anomalies = [.unexpectedCount m.reference .visible 256]
    ∧ (m.annotations .visible).lists = some (List.replicate 257 [])
    ∧ (report.value.annotations .visible).lists = some (List.replicate 256 [])
    ∧ ¬ (mk false).LeavesReported [.object ⟨"Outer"⟩] m
  := by
  intro m report
  have hanomalies : report.anomalies = [.unexpectedCount m.reference .visible 256] := by
    rw [anomalies_alignConstructor]
    apply Method.anomalies_padded
    decide
  have hbefore : (m.annotations .visible).lists = some (List.replicate 257 []) := rfl
  have hafter : (report.value.annotations .visible).lists = some (List.replicate 256 []) := by
    rw [value_alignConstructor]
    apply Method.lists_visible_aligned_padded
  use Method.startsWith_padded 256, hanomalies, hbefore, hafter
  intro hleaves
  have hmem : .unexpectedCount m.reference .visible 256 ∈ report.anomalies := by
    rw [hanomalies]
    apply List.mem_singleton_self
  obtain ⟨hsame, -, -⟩ := hleaves _ _ _ hmem
  have hlength := congrArg List.length
    (Option.some.inj (hafter.symm.trans (hsame.trans hbefore)))
  rw [List.length_replicate, List.length_replicate] at hlength
  omega

end ClassFile
