import ClassFile.Proofs.Descriptor.PrefixCode

/-!
# Texts of several types

The parameters of a method are written next to each other with nothing between them.
Since the descriptors of well-formed types are a prefix code, and none begins with the
parenthesis that closes the parameters, the text can be taken apart in one way only.

`MethodDescriptor.startsWith_iff_text` uses this to compare parameters by their texts.
`MethodDescriptor.parse_wrapped_type` says what becomes of the descriptor of a type, well
formed or not, when it is put in the place of the parameters or of the return: a class
name that holds a semicolon may pass for several types, but never for one, and a
parenthesis in it never moves the end of the parameters.
-/

namespace ClassFile

/-! ### Types next to each other -/

namespace FieldType

/-- Types spell a text together when they are well formed and the text is their
descriptors, one after the other. -/
def Spells (types : List FieldType) (s : String) : Prop :=
  (∀ t ∈ types, t.WellFormed) ∧ String.join (types.map descriptor) = s

instance (types : List FieldType) (s : String) : Decidable (Spells types s) :=
  inferInstanceAs (Decidable (_ ∧ _))

/-- The characters of descriptors one after the other are the spellings one after the
other. -/
theorem toList_join_descriptor
    (types : List FieldType) :
  (String.join (types.map descriptor)).toList = types.flatMap spelling
  := by
  simp [List.flatMap_map]

/-- A spelling is not empty. -/
theorem spelling_ne_nil
    (t : FieldType) :
  t.spelling ≠ []
  := by
  cases t <;> simp [spelling]

/-- A text that begins with a spelling does not begin with a closing parenthesis. -/
theorem spelling_append_ne_parenthesis
    (t : FieldType) (rest cs : List Char) :
  t.spelling ++ rest ≠ ')' :: cs
  := by
  intro h
  cases t with
  | base b =>
    obtain ⟨hletter, -⟩ := List.cons.inj h
    apply b.letter_ne rfl hletter
  | object name =>
    obtain ⟨hletter, -⟩ := List.cons.inj h
    contradiction
  | array element =>
    obtain ⟨hletter, -⟩ := List.cons.inj h
    contradiction

/-- Where a text holds well-formed types closed by a parenthesis, the spellings it begins
with are those of the types it begins with. -/
theorem flatMap_spelling_prefix_iff
    {types parameters : List FieldType} (htypes : ∀ t ∈ types, t.WellFormed)
    (hparameters : ∀ t ∈ parameters, t.WellFormed) (rest : List Char) :
  types.flatMap spelling <+: parameters.flatMap spelling ++ ')' :: rest ↔ types <+: parameters
  := by
  constructor
  · intro h
    -- Type by type: the first spellings are equal, since both stand at the front of the
    -- text, and where the parameters end no further type can begin.
    induction types generalizing parameters with
    | nil => apply List.nil_prefix
    | cons t types ih =>
      obtain ⟨ht, hts⟩ := List.forall_mem_cons.mp htypes
      obtain ⟨more, hmore⟩ := h
      rw [List.flatMap_cons, List.append_assoc] at hmore
      cases parameters with
      | nil => apply absurd hmore (t.spelling_append_ne_parenthesis _ _)
      | cons u parameters =>
        obtain ⟨hu, hus⟩ := List.forall_mem_cons.mp hparameters
        rw [List.flatMap_cons, List.append_assoc] at hmore
        obtain ⟨rfl, htail⟩ := spelling_append_inj ht hu hmore
        apply List.cons_prefix_cons.mpr
        use rfl
        apply ih hts hus ⟨more, htail⟩
  · rintro ⟨more, rfl⟩
    rw [List.flatMap_append, List.append_assoc]
    apply List.prefix_append

end FieldType

namespace MethodDescriptor

/-- The characters of a descriptor are the spelling. -/
@[simp]
theorem toList_descriptor
    (d : MethodDescriptor) :
  d.descriptor.toList = d.spelling
  := String.toList_ofList

/-- Where the parameters of a method are well formed, they start with given well-formed
types exactly when the descriptor of the method starts with a parenthesis and the
descriptors of these types.  What the method returns does not matter. -/
theorem startsWith_iff_text
    {d : MethodDescriptor} {types : List FieldType}
    (hparameters : ∀ t ∈ d.parameters, t.WellFormed) (htypes : ∀ t ∈ types, t.WellFormed) :
  d.StartsWith types
    ↔ d.descriptor.startsWith ("(" ++ String.join (types.map FieldType.descriptor)) = true
  := by
  have htext : ("(" ++ String.join (types.map FieldType.descriptor)).toList
      = '(' :: types.flatMap FieldType.spelling := by
    rw [String.toList_append, FieldType.toList_join_descriptor]
    rfl
  rw [String.startsWith_string_iff, htext, toList_descriptor, spelling, List.cons_append,
    List.cons_prefix_cons, FieldType.flatMap_spelling_prefix_iff htypes hparameters]
  simp [StartsWith]

/-- A method that takes an array of a class with a parenthesis in its name and returns an
`int`.  Its descriptor starts with its parameter, but not with its parameter and an
`int`. -/
theorem startsWith_iff_text_parenthesis :
  let d : MethodDescriptor := ⟨[.array (.object ⟨"a)"⟩)], .value (.base .int)⟩
  let longer := d.parameters ++ [.base .int]
  (∀ t ∈ d.parameters, t.WellFormed) ∧ (∀ t ∈ longer, t.WellFormed)
    ∧ d.descriptor.startsWith ("(" ++ String.join (d.parameters.map FieldType.descriptor)) = true
    ∧ ¬ d.descriptor.startsWith ("(" ++ String.join (longer.map FieldType.descriptor)) = true
  := by
  intro d longer
  have hparameters : ∀ t ∈ d.parameters, t.WellFormed := by decide
  have hlonger : ∀ t ∈ longer, t.WellFormed := by decide
  use hparameters, hlonger
  rw [← startsWith_iff_text hparameters hparameters, ← startsWith_iff_text hparameters hlonger]
  decide

end MethodDescriptor

/-! ### A type in the place of the parameters or of the return -/

namespace FieldType

/-- The spelling of a type does not end with the letter for nothing. -/
theorem spelling_ne_append_void
    (t : FieldType) (cs : List Char) :
  t.spelling ≠ cs ++ ['V']
  := by
  induction t generalizing cs with
  | base b =>
    intro h
    cases cs with
    | nil => apply spelling_ne_void (base b) h
    | cons c cs => simp [spelling] at h
  | object name =>
    intro h
    obtain ⟨-, hlast⟩ := List.append_inj' h rfl
    contradiction
  | array element ih =>
    intro h
    cases cs with
    | nil => simp [spelling] at h
    | cons c cs =>
      obtain ⟨-, helement⟩ := List.cons.inj h
      apply ih cs helement

/-- Well-formed types that spell the descriptor of a type that is not well formed are at
least two: a single one would be that type. -/
theorem Spells.two_le_length
    {t : FieldType} (ht : ¬ t.WellFormed) {types : List FieldType}
    (h : Spells types t.descriptor) :
  2 ≤ types.length
  := by
  obtain ⟨hwf, hjoin⟩ := h
  match types with
  | [] =>
    have hnil := congrArg String.toList hjoin
    rw [toList_join_descriptor, toList_descriptor] at hnil
    apply absurd hnil.symm t.spelling_ne_nil
  | [u] =>
    have hdescriptor : u.descriptor = t.descriptor := by simpa using hjoin
    obtain rfl := descriptor_injective hdescriptor
    apply absurd (hwf u (List.mem_singleton_self u)) ht
  | _ :: _ :: _ => simp

end FieldType

/-- If a text ends with a closing parenthesis and the letter for nothing, and also with a
closing parenthesis and the spelling of a return, then that return is nothing and the
parenthesis is the same. -/
theorem ReturnDescriptor.eq_void_of_append
    {cs cs' : List Char} {r : ReturnDescriptor}
    (h : cs ++ [')', 'V'] = cs' ++ ')' :: r.spelling) :
  r = .void ∧ cs = cs'
  := by
  cases r with
  | void =>
    use rfl
    apply List.append_cancel_right h
  | value t =>
    exfalso
    have hsplit := List.dropLast_concat_getLast t.spelling_ne_nil
    rw [spelling, List.append_cons, List.append_cons cs', ← hsplit, ← List.append_assoc] at h
    obtain ⟨-, hlast⟩ := List.append_inj' h rfl
    apply t.spelling_ne_append_void t.spelling.dropLast
    rw [hlast, hsplit]

namespace MethodDescriptor

/-- A text in the place of the parameters of a method that returns nothing is read exactly
as the well-formed types that spell it. -/
theorem parse_parameters_eq_ok_iff
    {s : String} {d : MethodDescriptor} :
  parse ("(" ++ s ++ ")V") = .ok d ↔ d.result = .void ∧ FieldType.Spells d.parameters s
  := by
  have htext : ("(" ++ s ++ ")V").toList = '(' :: (s.toList ++ [')', 'V']) := by simp
  rw [parse, DescriptorError.require_eq_ok_iff, ofSpelling?_eq_some_iff, htext, spelling,
    List.cons_append, FieldType.Spells, ← String.toList_inj, FieldType.toList_join_descriptor]
  constructor
  · rintro ⟨⟨hparameters, -⟩, h⟩
    obtain ⟨-, hrest⟩ := List.cons.inj h
    obtain ⟨hresult, hs⟩ := ReturnDescriptor.eq_void_of_append hrest
    use hresult, hparameters, hs.symm
  · rintro ⟨hresult, hparameters, hs⟩
    have hwf : d.result.WellFormed := by
      rw [hresult]
      trivial
    rw [hresult, hs]
    use ⟨hparameters, hwf⟩
    rfl

/-- A text in the place of the parameters of a method that returns nothing is read as
types that spell it, and is invalid only if no types do. -/
theorem parse_parameters_cases
    (s : String) :
  parse ("(" ++ s ++ ")V") = .error .invalid ∧ (∀ types, ¬ FieldType.Spells types s)
    ∨ ∃ types, parse ("(" ++ s ++ ")V") = .ok ⟨types, .void⟩ ∧ FieldType.Spells types s
  := by
  cases hread : parse ("(" ++ s ++ ")V") with
  | error e =>
    left
    use rfl
    intro types htypes
    have hok : parse ("(" ++ s ++ ")V") = .ok ⟨types, .void⟩ :=
      parse_parameters_eq_ok_iff.mpr ⟨rfl, htypes⟩
    rw [hread] at hok
    contradiction
  | ok d =>
    right
    obtain ⟨hresult, htypes⟩ := parse_parameters_eq_ok_iff.mp hread
    use d.parameters
    rw [← hresult]
    exact ⟨rfl, htypes⟩

/-- A text in the place of the return of a method without parameters is read as a
return. -/
theorem parse_result
    (s : String) :
  parse ("()" ++ s) = (ReturnDescriptor.parse s).map fun r => ⟨[], r⟩
  := by
  have htext : ("()" ++ s).toList = '(' :: ')' :: s.toList := by simp
  simp only [parse, htext, ofSpelling?, readParameters?, ReturnDescriptor.parse, bind,
    Option.bind_some]
  cases ReturnDescriptor.ofSpelling? s.toList <;> rfl

/-- The descriptor of a type in the place of the return is read as that type if the type is
well formed, and is invalid otherwise. -/
theorem parse_result_descriptor
    (t : FieldType) :
  parse ("()" ++ t.descriptor)
    = if t.WellFormed then .ok ⟨[], .value t⟩ else .error .invalid
  := by
  rw [parse_result, ReturnDescriptor.parse_descriptor, FieldType.parse_descriptor]
  split <;> rfl

/-- The descriptor of a type in the place of the parameters, or of the return.  If the type
is well formed, it is read as the only parameter, and as the return.  If it is not, it is
read as no return, and as parameters exactly if well-formed types spell it, of which there
are then at least two. -/
theorem parse_wrapped_type
    (t : FieldType) :
  (t.WellFormed →
      parse ("(" ++ t.descriptor ++ ")V") = .ok ⟨[t], .void⟩
        ∧ parse ("()" ++ t.descriptor) = .ok ⟨[], .value t⟩)
    ∧ (¬ t.WellFormed →
      parse ("()" ++ t.descriptor) = .error .invalid
        ∧ (parse ("(" ++ t.descriptor ++ ")V") = .error .invalid
            ∧ (∀ types, ¬ FieldType.Spells types t.descriptor)
          ∨ ∃ types, parse ("(" ++ t.descriptor ++ ")V") = .ok ⟨types, .void⟩
            ∧ 2 ≤ types.length ∧ FieldType.Spells types t.descriptor))
  := by
  constructor
  · intro hwf
    constructor
    · apply parse_parameters_eq_ok_iff.mpr
      simp [FieldType.Spells, hwf]
    · rw [parse_result_descriptor, if_pos hwf]
  · intro hwf
    constructor
    · rw [parse_result_descriptor, if_neg hwf]
    · obtain hnone | ⟨types, hread, htypes⟩ := parse_parameters_cases t.descriptor
      · left
        apply hnone
      · right
        use types, hread, htypes.two_le_length hwf

/-- An array of a class with parentheses in its name is well formed and is read as itself.
With a semicolon in the name it is not, and its descriptor is that of two types. -/
theorem parse_wrapped_type_semicolon :
  let t : FieldType := .array (.object ⟨"a)("⟩)
  let u : FieldType := .array (.object ⟨"a;L)"⟩)
  t.WellFormed ∧ parse ("(" ++ t.descriptor ++ ")V") = .ok ⟨[t], .void⟩
    ∧ ¬ u.WellFormed ∧ parse ("()" ++ u.descriptor) = .error .invalid
    ∧ ∃ types, parse ("(" ++ u.descriptor ++ ")V") = .ok ⟨types, .void⟩
      ∧ 2 ≤ types.length ∧ FieldType.Spells types u.descriptor
  := by
  intro t u
  have ht : t.WellFormed := by decide
  have hu : ¬ u.WellFormed := by decide
  obtain ⟨hparameter, -⟩ := (parse_wrapped_type t).1 ht
  obtain ⟨hresult, ⟨-, hnone⟩ | htypes⟩ := (parse_wrapped_type u).2 hu
  · have hspells : FieldType.Spells [.array (.object ⟨"a"⟩), .object ⟨")"⟩] u.descriptor := by
      decide
    apply absurd hspells (hnone _)
  · use ht, hparameter, hu, hresult

example : parse "([La;L);)V" = .ok ⟨[.array (.object ⟨"a"⟩), .object ⟨")"⟩], .void⟩ := by cbv

-- A parenthesis between the two names would end the parameters, but what follows it is no
-- return then.
example : parse "(La;)Lb;)V" = .error .invalid := by cbv

end MethodDescriptor

end ClassFile
