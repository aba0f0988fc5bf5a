import ClassFile.Descriptor.Reader
import Mathlib.Data.List.TakeWhile
import Mathlib.Tactic.Use

/-!
# Descriptors are read exactly

A reader takes a descriptor off the front of a text exactly when the text is the spelling
of a well-formed value followed by what is left.  A reader of whole texts accepts exactly
the spellings of well-formed values.  The first half of each statement is by recursion on
the text, in the steps of the reader; the second is by recursion on the value that was
spelled.

`MethodDescriptor.parse_exact` puts the readers together: a text is the descriptor of at
most one well-formed value, and it is read as that value or not at all.
-/

namespace ClassFile

/-! ### Base types -/

/-- A letter is read as a base type exactly when it is the letter of that type. -/
theorem BaseType.ofLetter?_eq_some_iff
    {c : Char} {b : BaseType} :
  ofLetter? c = some b ↔ c = b.letter
  := by
  constructor
  · intro h
    unfold ofLetter? at h
    split at h
    any_goals
      obtain rfl := Option.some.inj h
      rfl
    contradiction
  · rintro rfl
    cases b <;> rfl

/-- A character that is read as no base type is the letter of none. -/
theorem BaseType.letter_ne
    {c : Char} (h : ofLetter? c = none) (b : BaseType) :
  b.letter ≠ c
  := by
  rintro rfl
  rw [ofLetter?_eq_some_iff.mpr rfl] at h
  contradiction

/-! ### Class names -/

namespace ClassName

/-- A name is taken off the front of a text exactly when it is well formed and the text
is the name, a semicolon and what is left. -/
theorem read?_eq_some_iff
    {cs : List Char} {name : ClassName} {rest : List Char} :
  read? cs = some (name, rest) ↔ name.WellFormed ∧ cs = name.text.toList ++ ';' :: rest
  := by
  constructor
  · intro h
    unfold read? at h
    split at h
    · next c cs' d rest' htake hdrop =>
      obtain ⟨rfl, rfl⟩ := Prod.mk.inj (Option.some.inj h)
      obtain rfl : d = ';' := by
        have := List.head?_dropWhile_not (· != ';') cs
        simpa [hdrop] using this
      have hmem : ';' ∉ c :: cs' := by
        intro hc
        rw [← htake] at hc
        simpa using List.mem_takeWhile_imp hc
      constructor
      · simp only [WellFormed, String.toList_ofList]
        use List.cons_ne_nil c cs', hmem
      · rw [String.toList_ofList, ← htake, ← hdrop, List.takeWhile_append_dropWhile]
    · contradiction
  · rintro ⟨⟨hne, hmem⟩, rfl⟩
    have hall : ∀ c ∈ name.text.toList, (c != ';') = true := by
      intro c hc
      rw [bne_iff_ne]
      rintro rfl
      apply hmem hc
    unfold read?
    rw [List.takeWhile_append_of_pos hall, List.dropWhile_append_of_pos hall]
    obtain ⟨c, cs', hcons⟩ := List.exists_cons_of_ne_nil hne
    have hname : ClassName.mk (String.ofList (c :: cs')) = name := by
      rw [← hcons, String.ofList_toList]
    rw [hcons, List.takeWhile_cons_of_neg (by decide), List.dropWhile_cons_of_neg (by decide),
      List.append_nil]
    simp only [hname]

/-- A text is read as a closed name exactly when the name is well formed and the text is
the name and a semicolon. -/
theorem ofClosed?_eq_some_iff
    {cs : List Char} {name : ClassName} :
  ofClosed? cs = some name ↔ name.WellFormed ∧ cs = name.text.toList ++ [';']
  := by
  rw [← read?_eq_some_iff, ofClosed?]
  constructor
  · intro h
    split at h
    · next hread =>
      obtain rfl := Option.some.inj h
      apply hread
    · contradiction
  · intro h
    rw [h]

end ClassName

/-! ### Field types -/

namespace FieldType

/-- The descriptor of a well-formed type is taken off the front of any text that begins
with it. -/
theorem read?_spelling
    {t : FieldType} (h : t.WellFormed) (rest : List Char) :
  read? (t.spelling ++ rest) = some (t, rest)
  := by
  induction t with
  | base b => cases b <;> rfl
  | object name =>
    have hname : ClassName.read? (name.text.toList ++ ';' :: rest) = some (name, rest) :=
      ClassName.read?_eq_some_iff.mpr ⟨h, rfl⟩
    simp [spelling, read?, hname]
  | array element ih => simp [spelling, read?, ih h]

/-- A text from which a type is taken begins with the descriptor of that type, and the
type is well formed. -/
theorem wellFormed_of_read?
    {cs : List Char} {t : FieldType} {rest : List Char} (h : read? cs = some (t, rest)) :
  t.WellFormed ∧ cs = t.spelling ++ rest
  := by
  induction cs using read?.induct generalizing t with
  | case1 => simp [read?] at h
  | case2 cs ih =>
    rw [read?] at h
    obtain ⟨⟨element, rest'⟩, hread, heq⟩ := Option.map_eq_some_iff.mp h
    obtain ⟨rfl, rfl⟩ := Prod.mk.inj heq
    obtain ⟨hwf, rfl⟩ := ih hread
    use hwf
    rfl
  | case3 cs =>
    rw [read?] at h
    obtain ⟨⟨name, rest'⟩, hread, heq⟩ := Option.map_eq_some_iff.mp h
    obtain ⟨rfl, rfl⟩ := Prod.mk.inj heq
    obtain ⟨hwf, rfl⟩ := ClassName.read?_eq_some_iff.mp hread
    use hwf
    simp [spelling]
  | case4 c cs hbracket hletter =>
    rw [read?] at h
    · obtain ⟨b, hb, heq⟩ := Option.map_eq_some_iff.mp h
      obtain ⟨rfl, rfl⟩ := Prod.mk.inj heq
      obtain rfl := BaseType.ofLetter?_eq_some_iff.mp hb
      use trivial
      rfl
    · apply hbracket
    · apply hletter

/-- A type is taken off the front of a text exactly when it is well formed and the text
is its descriptor followed by what is left. -/
theorem read?_eq_some_iff
    {cs : List Char} {t : FieldType} {rest : List Char} :
  read? cs = some (t, rest) ↔ t.WellFormed ∧ cs = t.spelling ++ rest
  := by
  constructor
  · apply wellFormed_of_read?
  · rintro ⟨hwf, rfl⟩
    apply read?_spelling hwf

/-- The descriptor of a well-formed type is read as that type. -/
theorem ofSpelling?_spelling
    {t : FieldType} (h : t.WellFormed) :
  ofSpelling? t.spelling = some t
  := by
  induction t with
  | base b => cases b <;> rfl
  | object name =>
    have hname : ClassName.ofClosed? (name.text.toList ++ [';']) = some name :=
      ClassName.ofClosed?_eq_some_iff.mpr ⟨h, rfl⟩
    simp [spelling, ofSpelling?, hname]
  | array element ih => simp [spelling, ofSpelling?, ih h]

/-- A text that is read as a type is the descriptor of that type, and the type is well
formed. -/
theorem wellFormed_of_ofSpelling?
    {cs : List Char} {t : FieldType} (h : ofSpelling? cs = some t) :
  t.WellFormed ∧ cs = t.spelling
  := by
  induction cs using ofSpelling?.induct generalizing t with
  | case1 cs ih =>
    rw [ofSpelling?] at h
    obtain ⟨element, hread, rfl⟩ := Option.map_eq_some_iff.mp h
    obtain ⟨hwf, rfl⟩ := ih hread
    use hwf
    rfl
  | case2 cs =>
    rw [ofSpelling?] at h
    obtain ⟨name, hread, rfl⟩ := Option.map_eq_some_iff.mp h
    obtain ⟨hwf, rfl⟩ := ClassName.ofClosed?_eq_some_iff.mp hread
    use hwf
    rfl
  | case3 c hbracket hletter =>
    rw [ofSpelling?] at h
    · obtain ⟨b, hb, rfl⟩ := Option.map_eq_some_iff.mp h
      obtain rfl := BaseType.ofLetter?_eq_some_iff.mp hb
      use trivial
      rfl
    · apply hbracket
    · apply hletter
  | case4 cs hbracket hletter hsingle =>
    rw [ofSpelling?] at h
    · contradiction
    · apply hbracket
    · apply hletter
    · apply hsingle

/-- A text is read as a type exactly when the type is well formed and the text is its
descriptor. -/
theorem ofSpelling?_eq_some_iff
    {cs : List Char} {t : FieldType} :
  ofSpelling? cs = some t ↔ t.WellFormed ∧ cs = t.spelling
  := by
  constructor
  · apply wellFormed_of_ofSpelling?
  · rintro ⟨hwf, rfl⟩
    apply ofSpelling?_spelling hwf

end FieldType

/-! ### Returns -/

/-- The letter for nothing returned is no descriptor of a type. -/
theorem FieldType.spelling_ne_void
    (t : FieldType) :
  t.spelling ≠ ['V']
  := by
  cases t with
  | base b =>
    have hletter : b.letter ≠ 'V' := b.letter_ne rfl
    simp [spelling, hletter]
  | object name => simp [spelling]
  | array element => simp [spelling]

/-- A text is read as a return exactly when the return is well formed and the text is its
descriptor. -/
theorem ReturnDescriptor.ofSpelling?_eq_some_iff
    {cs : List Char} {r : ReturnDescriptor} :
  ofSpelling? cs = some r ↔ r.WellFormed ∧ cs = r.spelling
  := by
  unfold ofSpelling?
  constructor
  · intro h
    split at h
    · next hcs =>
      obtain rfl := Option.some.inj h
      use trivial, hcs
    · obtain ⟨t, hread, rfl⟩ := Option.map_eq_some_iff.mp h
      apply FieldType.ofSpelling?_eq_some_iff.mp hread
  · rintro ⟨hwf, rfl⟩
    cases r with
    | void => rfl
    | value t =>
      rw [spelling, if_neg t.spelling_ne_void, FieldType.ofSpelling?_spelling hwf]
      rfl

/-! ### Methods -/

namespace MethodDescriptor

/-- Where a type can be taken off the front of a text, the parameters are that type and
those in what is left. -/
theorem readParameters?_of_read?
    {cs : List Char} {t : FieldType} {rest : List Char}
    (h : FieldType.read? cs = some (t, rest)) :
  readParameters? cs = (readParameters? rest).map fun (ts, rest') => (t :: ts, rest')
  := by
  rw [readParameters?]
  · split
    · next t' rest' h' =>
      obtain ⟨rfl, rfl⟩ := Prod.mk.inj (Option.some.inj (h'.symm.trans h))
      rfl
    · next h' => simp [h] at h'
  · rintro cs' rfl
    simp [FieldType.read?, BaseType.ofLetter?] at h

/-- The descriptors of well-formed parameters, closed by a parenthesis, are taken off the
front of any text that begins with them. -/
theorem readParameters?_flatMap_spelling
    {ts : List FieldType} (h : ∀ t ∈ ts, t.WellFormed) (rest : List Char) :
  readParameters? (ts.flatMap FieldType.spelling ++ ')' :: rest) = some (ts, rest)
  := by
  induction ts with
  | nil =>
    rw [List.flatMap_nil, List.nil_append, readParameters?]
  | cons t ts ih =>
    obtain ⟨ht, hts⟩ := List.forall_mem_cons.mp h
    rw [List.flatMap_cons, List.append_assoc,
      readParameters?_of_read? (FieldType.read?_spelling ht _), ih hts]
    rfl

/-- A text from which parameters are taken begins with their descriptors and a closing
parenthesis, and the parameters are well formed. -/
theorem wellFormed_of_readParameters?
    {cs : List Char} {ts : List FieldType} {rest : List Char}
    (h : readParameters? cs = some (ts, rest)) :
  (∀ t ∈ ts, t.WellFormed) ∧ cs = ts.flatMap FieldType.spelling ++ ')' :: rest
  := by
  induction cs using readParameters?.induct generalizing ts with
  | case1 cs =>
    rw [readParameters?] at h
    obtain ⟨rfl, rfl⟩ := Prod.mk.inj (Option.some.inj h)
    simp
  | case2 cs hparen t rest' hread ih =>
    rw [readParameters?_of_read? hread] at h
    obtain ⟨⟨ts', rest''⟩, hrest, heq⟩ := Option.map_eq_some_iff.mp h
    obtain ⟨rfl, rfl⟩ := Prod.mk.inj heq
    obtain ⟨ht, rfl⟩ := FieldType.wellFormed_of_read? hread
    obtain ⟨hts, rfl⟩ := ih hrest
    constructor
    · apply List.forall_mem_cons.mpr ⟨ht, hts⟩
    · rw [List.flatMap_cons, List.append_assoc]
  | case3 cs hparen hread =>
    rw [readParameters?] at h
    · split at h
      · next hread' => simp [hread] at hread'
      · contradiction
    · apply hparen

/-- Parameters are taken off the front of a text exactly when they are well formed and the
text is their descriptors, a closing parenthesis and what is left. -/
theorem readParameters?_eq_some_iff
    {cs : List Char} {ts : List FieldType} {rest : List Char} :
  readParameters? cs = some (ts, rest)
    ↔ (∀ t ∈ ts, t.WellFormed) ∧ cs = ts.flatMap FieldType.spelling ++ ')' :: rest
  := by
  constructor
  · apply wellFormed_of_readParameters?
  · rintro ⟨hwf, rfl⟩
    apply readParameters?_flatMap_spelling hwf

/-- A text is read as a method descriptor exactly when that is well formed and the text is
its descriptor. -/
theorem ofSpelling?_eq_some_iff
    {cs : List Char} {d : MethodDescriptor} :
  ofSpelling? cs = some d ↔ d.WellFormed ∧ cs = d.spelling
  := by
  constructor
  · intro h
    unfold ofSpelling? at h
    split at h
    · next cs =>
      obtain ⟨⟨ts, rest⟩, hparameters, h⟩ := Option.bind_eq_some_iff.mp h
      obtain ⟨r, hresult, heq⟩ := Option.bind_eq_some_iff.mp h
      obtain rfl := Option.some.inj heq
      obtain ⟨hts, rfl⟩ := readParameters?_eq_some_iff.mp hparameters
      obtain ⟨hr, rfl⟩ := ReturnDescriptor.ofSpelling?_eq_some_iff.mp hresult
      use ⟨hts, hr⟩
      rfl
    · contradiction
  · rintro ⟨⟨hts, hr⟩, rfl⟩
    have hresult := ReturnDescriptor.ofSpelling?_eq_some_iff.mpr ⟨hr, rfl⟩
    simp [spelling, ofSpelling?, readParameters?_flatMap_spelling hts, hresult]

end MethodDescriptor

/-! ### Texts -/

/-- A required value is there exactly when it is the one that was read. -/
theorem DescriptorError.require_eq_ok_iff
    {α : Type} {a : α} {read : Option α} :
  require read = .ok a ↔ read = some a
  := by
  cases read <;> simp [require]

/-- A required value is missing exactly when none was read. -/
theorem DescriptorError.require_eq_error_iff
    {α : Type} {e : DescriptorError} {read : Option α} :
  require read = .error e ↔ read = none
  := by
  cases e
  cases read <;> simp [require]

/-- A text is the descriptor of a method exactly when its characters are the spelling. -/
theorem MethodDescriptor.descriptor_eq_iff
    {d : MethodDescriptor} {s : String} :
  d.descriptor = s ↔ s.toList = d.spelling
  := by
  constructor
  · rintro rfl
    apply String.toList_ofList
  · intro h
    rw [descriptor, ← h, String.ofList_toList]

/-- Method descriptors are read exactly: a text is read as a value if and only if the
value is well formed and the text is its descriptor, and a text that is the descriptor of
no well-formed value is invalid. -/
theorem MethodDescriptor.parse_exact
    (s : String) :
  (∀ d, parse s = .ok d ↔ d.WellFormed ∧ d.descriptor = s)
    ∧ (parse s = .error .invalid ↔ ∀ d : MethodDescriptor, d.WellFormed → d.descriptor ≠ s)
  := by
  have hread : ∀ d, ofSpelling? s.toList = some d ↔ d.WellFormed ∧ d.descriptor = s := by
    intro d
    rw [ofSpelling?_eq_some_iff, descriptor_eq_iff]
  constructor
  · intro d
    rw [parse, DescriptorError.require_eq_ok_iff, hread]
  · rw [parse, DescriptorError.require_eq_error_iff, Option.eq_none_iff_forall_ne_some]
    simp only [ne_eq, hread, not_and]

end ClassFile
