import ClassFile.Proofs.Normalize.NormalForm

/-!
# The log tells what was changed

What a pass that logs says about a class can be compared with the difference between the
class before the run and the class afterwards.

The aligner says of which kind the class is, and then, constructor by constructor, what it
found: that the synthetic parameters are missing, or for each visibility that there is no
list, that the list has one of the two right lengths, or that it has another one.  It says
that entries were removed exactly as often as a list became shorter.

The stripper says nothing but which tables were lost, and how large they were.
-/

namespace ClassFile

/-! ### Removed entries -/

/-- Whether an event tells of entries that were removed from a list. -/
def Event.tellsOfRemoval (e : Event) : Bool :=
  e.level = .info && e.text.startsWith "Found extra"

namespace Event

variable (m : MethodRef) (v : Visibility)

@[simp]
theorem tellsOfRemoval_entriesRemoved
    (number : Nat) :
  (entriesRemoved m v number).tellsOfRemoval = true
  := by
  have htext : "Found extra".toList <+: (entriesRemoved m v number).text.toList := by
    change _ <+: ("Found extra " ++ v.attributeName ++ " entries in " ++ m.display
      ++ ": removing " ++ Nat.repr number).toList
    simp only [String.toList_append]
    repeat apply List.IsPrefix.trans _ (List.prefix_append _ _)
    decide
  rw [tellsOfRemoval, Bool.and_eq_true, String.startsWith_string_iff]
  use decide_eq_true rfl

@[simp]
theorem tellsOfRemoval_alreadyAligned :
  (alreadyAligned m v).tellsOfRemoval = false
  := by
  have htext : ¬ "Found extra".toList <+: (alreadyAligned m v).text.toList := by
    rintro ⟨rest, hrest⟩
    change _ = ("Number of " ++ v.attributeName ++ " entries in " ++ m.display
      ++ " is already as we want").toList at hrest
    simp only [String.toList_append] at hrest
    have hfirst : some 'F' = some 'N' := congrArg List.head? hrest
    contradiction
  rw [← String.startsWith_string_iff, Bool.not_eq_true] at htext
  rw [tellsOfRemoval, htext, Bool.and_false]

@[simp]
theorem tellsOfRemoval_attributeAbsent :
  (attributeAbsent m v).tellsOfRemoval = false
  := rfl

@[simp]
theorem tellsOfRemoval_found
    (anomaly : Anomaly) :
  (found anomaly).tellsOfRemoval = false
  := rfl

@[simp]
theorem tellsOfRemoval_classified
    (subject : ClassName) (kind : Classification) :
  (classified subject kind).tellsOfRemoval = false
  := rfl

end Event

namespace ParameterAnnotations

/-- Whether there is a list before and after, and the latter is shorter. -/
def shortened (before after : ParameterAnnotations) : Bool :=
  match before.lists, after.lists with
  | some lists, some lists' => lists'.length < lists.length
  | _, _ => false

/-- The warning about a list that has `k` entries, if these are too many for the count. -/
def oversized (m : MethodRef) (v : Visibility) (k : Nat) : List Event :=
  if 255 < k then [.found (.unexpectedCount m v k)] else []

/-- What an aligner that logs says about a list of `k` entries of a constructor with `n`
parameters, the first `s` of which are synthetic. -/
def lengthLog (m : MethodRef) (v : Visibility) (n s k : Nat) : List Event :=
  if k = n then
    .entriesRemoved m v s :: oversized m v (n - s)
  else if k = n - s then
    .alreadyAligned m v :: oversized m v (n - s)
  else
    [.found (.unexpectedCount m v k)]

/-- What an aligner that logs says about the annotations of a visibility. -/
def alignmentLog (m : MethodRef) (v : Visibility) (n s : Nat) (a : ParameterAnnotations) :
    List Event :=
  a.lists.elim [.attributeAbsent m v] fun lists => lengthLog m v n s lists.length

/-- The levels of what an aligner that logs says about the annotations of a visibility: a
trace if there is no list, an information if it has a right length, with a warning if that
is too large for the count, and a warning otherwise. -/
def alignmentLevels (n s : Nat) (a : ParameterAnnotations) : List LogLevel :=
  a.lists.elim [.trace] fun lists =>
    if lists.length = n ∨ lists.length = n - s then
      .info :: if 255 < n - s then [.warn] else []
    else
      [.warn]

/-- What is said about a list of `k` entries has one of three forms. -/
theorem lengthLog_cases
    (m : MethodRef) (v : Visibility) (n s k : Nat) :
  (k = n ∧ lengthLog m v n s k = .entriesRemoved m v s :: oversized m v (n - s))
    ∨ (k ≠ n ∧ k = n - s ∧ lengthLog m v n s k = .alreadyAligned m v :: oversized m v (n - s))
    ∨ (k ≠ n ∧ k ≠ n - s ∧ lengthLog m v n s k = [.found (.unexpectedCount m v k)])
  := by
  rw [lengthLog]
  grind

theorem map_level_alignmentLog
    (m : MethodRef) (v : Visibility) (n s : Nat) (a : ParameterAnnotations) :
  (a.alignmentLog m v n s).map Event.level = a.alignmentLevels n s
  := by
  have hoversized : (oversized m v (n - s)).map Event.level
      = if 255 < n - s then [.warn] else [] := by
    rw [oversized]
    split <;> rfl
  rw [alignmentLog, alignmentLevels]
  cases a.lists with
  | none => rfl
  | some lists =>
    rw [Option.elim_some, Option.elim_some]
    obtain ⟨hk, hlog⟩ | ⟨-, hk, hlog⟩ | ⟨hn, hns, hlog⟩ := lengthLog_cases m v n s lists.length
    · rw [hlog, List.map_cons, hoversized, if_pos (Or.inl hk)]
      rfl
    · rw [hlog, List.map_cons, hoversized, if_pos (Or.inr hk)]
      rfl
    · rw [hlog, if_neg (not_or.mpr ⟨hn, hns⟩)]
      rfl

theorem shortened_self
    (a : ParameterAnnotations) :
  a.shortened a = false
  := by
  rw [shortened]
  cases a.lists <;> simp

/-- The aligner says that entries were removed exactly when the list became shorter. -/
theorem countP_alignmentLog
    (m : MethodRef) (v : Visibility) {n s : Nat} (hs : 0 < s) (hsn : s ≤ n)
    (a : ParameterAnnotations) :
  (a.alignmentLog m v n s).countP Event.tellsOfRemoval
    = if a.shortened (a.aligned n s) then 1 else 0
  := by
  have hoversized : ∀ k, (oversized m v k).countP Event.tellsOfRemoval = 0 := by
    intro k
    rw [oversized]
    split <;> rfl
  rw [alignmentLog, shortened, lists_aligned]
  cases a.lists with
  | none => rfl
  | some lists =>
    simp only [Option.elim_some, Option.map_some, length_trim]
    obtain ⟨hk, hlog⟩ | ⟨hn, -, hlog⟩ | ⟨hn, -, hlog⟩ := lengthLog_cases m v n s lists.length
    -- Only here are entries removed, and there are some to remove since `s` is positive.
    · have hshorter : n - s < lists.length := by omega
      rw [if_pos hk, decide_eq_true hshorter, hlog]
      simp [hoversized]
    · simp [hlog, hn, hoversized]
    · simp [hlog, hn]

end ParameterAnnotations

/-! ### The aligner -/

namespace AnnotationAligner

/-- An aligner that logs warns of a list that had a right length only if there are too many
entries now. -/
theorem log_checkLength_of_expected
    (m : MethodRef) (v : Visibility) {n s k : Nat} (h : k = n ∨ k = n - s) (k' : Nat) :
  ((mk true).checkLength m v n s k k').log = ParameterAnnotations.oversized m v k'
  := by
  rw [checkLength, ParameterAnnotations.oversized]
  by_cases hlarge : 255 < k'
  · have hfails : ¬ ((k = n ∨ k = n - s) ∧ k' ≤ 255) := by omega
    rw [if_neg hfails, if_pos hlarge]
    rfl
  · rw [if_pos ⟨h, Nat.not_lt.mp hlarge⟩, if_neg hlarge]
    rfl

/-- What an aligner that logs says about a list of `k` entries. -/
theorem log_noteLength_checkLength
    (m : MethodRef) (v : Visibility) (n s k : Nat) :
  ((mk true).noteLength m v n s k).log
      ++ ((mk true).checkLength m v n s k (if k = n then n - s else k)).log
    = ParameterAnnotations.lengthLog m v n s k
  := by
  rw [noteLength]
  obtain ⟨hn, hlog⟩ | ⟨hn, hns, hlog⟩ | ⟨hn, hns, hlog⟩ :=
    ParameterAnnotations.lengthLog_cases m v n s k
  · rw [hlog, if_pos hn, if_pos hn, log_checkLength_of_expected m v (Or.inl hn)]
    rfl
  · rw [hlog, if_neg hn, if_pos hns, if_neg hn, log_checkLength_of_expected m v (Or.inr hns), hns]
    rfl
  · have hfails : ¬ ((k = n ∨ k = n - s) ∧ k ≤ 255) := by omega
    rw [hlog, if_neg hn, if_neg hns, if_neg hn, checkLength, if_neg hfails]
    rfl

/-- What an aligner that logs says about the annotations of a visibility. -/
theorem log_align
    (m : MethodRef) (v : Visibility) (n s : Nat) (a : ParameterAnnotations) :
  ((mk true).align m v n s a).log = a.alignmentLog m v n s
  := by
  rw [align, Report.log_bind, Report.log_pure, List.append_nil, ParameterAnnotations.alignmentLog]
  cases a.lists with
  | none => rfl
  | some lists =>
    rw [examine, Report.log_bind, Option.elim_some, ParameterAnnotations.length_trim,
      log_noteLength_checkLength]

end AnnotationAligner

namespace Method

/-- What an aligner that logs says about a constructor that should begin with the given
synthetic parameters. -/
def alignmentLog (synthetic : List FieldType) (m : Method) : List Event :=
  if m.descriptor.StartsWith synthetic then
    m.visible.alignmentLog m.reference .visible m.parameters.length synthetic.length
      ++ m.invisible.alignmentLog m.reference .invisible m.parameters.length synthetic.length
  else
    [.found (.missingSynthetic m.reference synthetic)]

/-- The levels of what an aligner that logs says about a constructor: a warning if the
synthetic parameters are missing, and otherwise the levels of what it says about the
visible annotations and then about the invisible ones. -/
def alignmentLevels (synthetic : List FieldType) (m : Method) : List LogLevel :=
  if m.descriptor.StartsWith synthetic then
    m.visible.alignmentLevels m.parameters.length synthetic.length
      ++ m.invisible.alignmentLevels m.parameters.length synthetic.length
  else
    [.warn]

/-- The visibilities whose list is shorter afterwards. -/
def shortened (before after : Method) : List Visibility :=
  [.visible, .invisible].filter fun v => (before.annotations v).shortened (after.annotations v)

theorem length_shortened
    (before after : Method) :
  (before.shortened after).length
    = (if (before.annotations .visible).shortened (after.annotations .visible) then 1 else 0)
      + if (before.annotations .invisible).shortened (after.annotations .invisible) then 1 else 0
  := by
  rw [shortened, ← List.countP_eq_length_filter, List.countP_cons, List.countP_cons,
    List.countP_nil, Nat.zero_add, Nat.add_comm]

theorem map_level_alignmentLog
    (synthetic : List FieldType) (m : Method) :
  (m.alignmentLog synthetic).map Event.level = m.alignmentLevels synthetic
  := by
  rw [alignmentLog, alignmentLevels]
  split
  · rw [List.map_append, ParameterAnnotations.map_level_alignmentLog,
      ParameterAnnotations.map_level_alignmentLog]
  · rfl

/-- The aligner says that entries were removed once for each list that became shorter. -/
theorem countP_alignmentLog
    {synthetic : List FieldType} (hne : synthetic ≠ []) (m : Method) :
  (m.alignmentLog synthetic).countP Event.tellsOfRemoval
    = (m.shortened (m.aligned synthetic)).length
  := by
  rw [alignmentLog, length_shortened]
  split
  · next h =>
    have hs : 0 < synthetic.length := List.length_pos_iff.mpr hne
    have hsn : synthetic.length ≤ m.parameters.length := h.length_le
    rw [List.countP_append, ParameterAnnotations.countP_alignmentLog _ _ hs hsn,
      ParameterAnnotations.countP_alignmentLog _ _ hs hsn, annotations_aligned,
      annotations_aligned, if_pos h, if_pos h]
    rfl
  · next h =>
    rw [aligned_of_not_startsWith h]
    simp [ParameterAnnotations.shortened_self]

end Method

namespace Class

/-- The constructors of a class, in order. -/
def constructors (c : Class) : List Method :=
  c.methods.filter fun m => m.IsConstructor

/-- The pairs of a constructor and a visibility whose list is shorter afterwards. -/
def shortened (before after : Class) : List (Method × Visibility) :=
  (before.methods.zip after.methods).flatMap fun (m, m') =>
    if m.IsConstructor then (m.shortened m').map (m, ·) else []

/-- What is collected from the constructors is collected from the methods that are
constructors. -/
theorem flatMap_constructors
    {β : Type} (c : Class) (f : Method → List β) :
  c.constructors.flatMap f = c.methods.flatMap fun m => if m.IsConstructor then f m else []
  := by
  rw [constructors]
  induction c.methods with
  | nil => rfl
  | cons m methods ih =>
    rw [List.flatMap_cons, ← ih]
    by_cases hm : m.IsConstructor <;> simp [hm]

/-- A list in an aligned class is shorter exactly if it is so in the aligned method. -/
theorem shortened_aligned_of_some
    {c : Class} {synthetic : List FieldType}
    (h : c.expectedSyntheticParameters = some synthetic) :
  c.shortened c.aligned
    = c.constructors.flatMap fun m => (m.shortened (m.aligned synthetic)).map (m, ·)
  := by
  rw [shortened, aligned, ← List.map_prod_left_eq_zip, List.flatMap_map, flatMap_constructors]
  congr 1
  funext m
  rw [alignedMethod_of_some h]
  by_cases hm : m.IsConstructor <;> simp [hm]

theorem shortened_aligned_of_none
    {c : Class} (h : c.expectedSyntheticParameters = none) :
  c.shortened c.aligned = []
  := by
  rw [shortened, aligned, ← List.map_prod_left_eq_zip, List.flatMap_map, List.flatMap_eq_nil_iff]
  intro m _
  rw [alignedMethod_of_none h]
  simp [Method.shortened, ParameterAnnotations.shortened_self]

end Class

namespace AnnotationAligner

/-- What an aligner that logs says about a constructor. -/
theorem log_alignConstructor
    (synthetic : List FieldType) (m : Method) :
  ((mk true).alignConstructor synthetic m).log = m.alignmentLog synthetic
  := by
  rw [alignConstructor, Method.alignmentLog]
  split
  · simp [log_align]
  · rfl

/-- What an aligner that logs says about a class: of which kind it is, and then something
about every constructor if there are synthetic parameters. -/
theorem log_run_of_some
    {c : Class} {synthetic : List FieldType} (h : c.expectedSyntheticParameters = some synthetic) :
  ((mk true).run c).log
    = .classified c.name (.of c) :: c.constructors.flatMap (Method.alignmentLog synthetic)
  := by
  have hmethod : ∀ m, ((mk true).alignMethod synthetic m).log
      = if m.IsConstructor then m.alignmentLog synthetic else [] := by
    intro m
    rw [alignMethod]
    split
    · apply log_alignConstructor
    · rfl
  rw [run, h, c.flatMap_constructors]
  simp [hmethod]

theorem log_run_of_none
    {c : Class} (h : c.expectedSyntheticParameters = none) :
  ((mk true).run c).log = [.classified c.name (.of c)]
  := by
  rw [run, h]
  rfl

/-- An aligner that logs says that entries were removed once for each list that became
shorter. -/
theorem countP_log_run
    (c : Class) :
  ((mk true).run c).log.countP Event.tellsOfRemoval
    = (c.shortened ((mk true).run c).value).length
  := by
  rw [value_run]
  cases h : c.expectedSyntheticParameters with
  | none =>
    rw [log_run_of_none h, c.shortened_aligned_of_none h]
    rfl
  | some synthetic =>
    have hne : synthetic ≠ [] := Classification.syntheticParameters_ne_nil h
    rw [log_run_of_some h, Class.shortened_aligned_of_some h, List.countP_cons,
      Event.tellsOfRemoval_classified, List.countP_flatMap, List.length_flatMap]
    simp [Function.comp_def, Method.countP_alignmentLog hne]

end AnnotationAligner

/-! ### The stripper -/

namespace Method

/-- The local variable table of a method, if it has one. -/
def table? (m : Method) : Option LocalVariableTable := m.body.bind MethodBody.localVariables

/-- The local variable table that was there before and is not there afterwards. -/
def lostTable? (before after : Method) : Option LocalVariableTable :=
  if after.table?.isNone then before.table? else none

/-- The level and the text of what a stripper that logs says about a table that a method
lost: how many variables are in the table, and which method it is. -/
def removalRecord (m : Method) (table : LocalVariableTable) : LogLevel × String :=
  (.trace,
    "    Removed " ++ Nat.repr table.entries.length ++ " local variables from "
      ++ (m.owner.text ++ "::" ++ m.name ++ m.descriptor.descriptor))

/-- The table that a method loses is the one that the stripper looks for. -/
theorem lostTable?_stripped
    (m : Method) :
  m.lostTable? m.stripped = m.body.bind MethodBody.namedVariables?
  := by
  rw [lostTable?, table?, table?, stripped]
  cases m.body with
  | none => rfl
  | some b =>
    rw [Option.map_some, Option.bind_some, Option.bind_some, Option.bind_some, MethodBody.stripped]
    cases hnamed : b.namedVariables? with
    | none => cases b.localVariables <;> rfl
    | some table =>
      rw [MethodBody.namedVariables?, Option.filter_eq_some_iff] at hnamed
      apply hnamed.1

end Method

namespace LocalVariableStripper

/-- What a stripper that logs says about a method: which table it lost. -/
theorem log_strip
    (m : Method) :
  ((mk true).strip m).log
    = ((m.lostTable? m.stripped).map fun table => .tableRemoved m.reference table.size).toList
  := by
  rw [strip, Report.log_bind, Report.log_pure, List.append_nil, m.lostTable?_stripped]
  cases m.body.bind MethodBody.namedVariables? <;> rfl

/-- What a stripper that logs says about a class: which tables were lost. -/
theorem log_run
    (c : Class) :
  ((mk true).run c).log
    = (c.methods.zip ((mk true).run c).value.methods).filterMap fun (m, m') =>
        (m.lostTable? m').map fun table => .tableRemoved m.reference table.size
  := by
  have hrun : ((mk true).run c).log = c.methods.flatMap fun m => ((mk true).strip m).log := by
    simp [run]
  -- Each method stands beside its own result, so that the methods can be gone through alone.
  rw [hrun, value_run, Class.stripped, ← List.map_prod_left_eq_zip, List.filterMap_map,
    List.filterMap_eq_flatMap_toList]
  congr 1
  funext m
  apply log_strip

/-- The levels and the texts of what a stripper that logs says about a class. -/
theorem map_level_text_log_run
    (c : Class) :
  ((mk true).run c).log.map (fun e => (e.level, e.text))
    = (c.methods.zip ((mk true).run c).value.methods).filterMap fun (m, m') =>
        (m.lostTable? m').map m.removalRecord
  := by
  rw [log_run, List.map_filterMap]
  congr 1
  funext ⟨m, m'⟩
  rw [Option.map_map]
  rfl

end LocalVariableStripper

/-- The logs of the passes tell what was changed.  An aligner that logs says that entries
were removed once for each list of a constructor that became shorter.  If there are
synthetic parameters, it says of which kind the class is, at the level of debugging, and
then what there is to say about every constructor in turn.  The log of a stripper that
logs is a trace for each table that was there before the run and is not there afterwards,
in the order of the methods, with the method and the size of the table, and its text tells
the owner, the name and the descriptor of the method and the number of the variables. -/
theorem Class.logs_tell_changes
    (c : Class) :
  let aligned := (AnnotationAligner.mk true).run c
  let stripped := (LocalVariableStripper.mk true).run c
  (aligned.log.countP Event.tellsOfRemoval = (c.shortened aligned.value).length
    ∧ ∀ synthetic, c.expectedSyntheticParameters = some synthetic →
        aligned.log
            = .classified c.name (.of c) :: c.constructors.flatMap (Method.alignmentLog synthetic)
          ∧ aligned.log.map Event.level
            = .debug :: c.constructors.flatMap (Method.alignmentLevels synthetic))
    ∧ (stripped.log
        = (c.methods.zip stripped.value.methods).filterMap fun (m, m') =>
            (m.lostTable? m').map fun table => .tableRemoved m.reference table.size)
    ∧ (∀ e ∈ stripped.log, e.level = .trace)
    ∧ stripped.log.map (fun e => (e.level, e.text))
      = (c.methods.zip stripped.value.methods).filterMap fun (m, m') =>
          (m.lostTable? m').map m.removalRecord
  := by
  intro aligned stripped
  constructor
  · use AnnotationAligner.countP_log_run c
    intro synthetic h
    have hlog := AnnotationAligner.log_run_of_some h
    use hlog
    rw [hlog, List.map_cons, List.map_flatMap]
    simp only [Method.map_level_alignmentLog]
    rfl
  · use LocalVariableStripper.log_run c
    constructor
    · intro e he
      rw [LocalVariableStripper.log_run, List.mem_filterMap] at he
      obtain ⟨_, -, htable⟩ := he
      obtain ⟨table, -, rfl⟩ := Option.map_eq_some_iff.mp htable
      rfl
    · apply LocalVariableStripper.map_level_text_log_run

/-- The class `Class.planet` with two variables in the table of its constructor, the planet
itself and its mass. -/
def Class.namedPlanet : Class :=
  let self : LocalVariable := ⟨0, 9, "this", some (.object ⟨"Planet"⟩), none, 0⟩
  let name (b : MethodBody) : MethodBody :=
    { b with localVariables := b.localVariables.map fun table => ⟨self :: table.entries⟩ }
  { planet with methods := planet.methods.map fun m => { m with body := m.body.map name } }

/-- An enum whose constructor has a list with entries for its synthetic parameters, a list
of an unexpected length, and a table of two variables. -/
theorem Class.logs_tell_changes_planet :
  let aligned := (AnnotationAligner.mk true).run namedPlanet
  let stripped := (LocalVariableStripper.mk true).run namedPlanet
  namedPlanet.expectedSyntheticParameters = some [.string, .base .int]
    ∧ aligned.log.map Event.level = [.debug, .info, .warn]
    ∧ (namedPlanet.shortened aligned.value).map Prod.snd = [.visible]
    ∧ aligned.log.countP Event.tellsOfRemoval = 1
    ∧ stripped.log = namedPlanet.methods.map (fun m => .tableRemoved m.reference 2)
    ∧ stripped.log.map (fun e => (e.level, e.text))
      = [(.trace, "    Removed 2 local variables from Planet::<init>(Ljava/lang/String;ID)V")]
  := by
  intro aligned stripped
  have hexpected : namedPlanet.expectedSyntheticParameters = some [.string, .base .int] := by
    decide
  obtain ⟨⟨hcount, hlog⟩, hstripped, -, hrecords⟩ := Class.logs_tell_changes namedPlanet
  obtain ⟨-, hlevels⟩ := hlog _ hexpected
  use hexpected, hlevels, rfl, hcount, hstripped
  apply hrecords

end ClassFile
