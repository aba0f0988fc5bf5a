import ClassFile.Proofs.Descriptor.Exactness

/-!
# The descriptors of types are a prefix code

Different types have different descriptors, well formed or not.  For well-formed types
more is true: if a text begins with the descriptors of two of them, they are the same
type.  So a text that is read as a type is no proper beginning of another one, and a
reader that takes a type off the front of a text has no choice where to stop.

`types_read_exactly` says which texts are read as types and as returns, and
`FieldType.read?_agrees_parse` that the reader of whole texts and the reader that leaves a
rest accept the same descriptors.
-/

namespace ClassFile

/-! ### Letters -/

/-- Different base types have different letters. -/
theorem BaseType.letter_injective :
  Function.Injective letter
  := by
  intro b b' h
  have hread : ofLetter? b'.letter = some b := ofLetter?_eq_some_iff.mpr h.symm
  rw [ofLetter?_eq_some_iff.mpr rfl] at hread
  apply (Option.some.inj hread).symm

namespace FieldType

/-! ### Descriptors and types -/

/-- The characters of a descriptor are the spelling. -/
@[simp]
theorem toList_descriptor
    (t : FieldType) :
  t.descriptor.toList = t.spelling
  := String.toList_ofList

/-- Types with the same spelling are the same, well formed or not. -/
theorem spelling_injective :
  Function.Injective spelling
  := by
  intro t
  -- The first character tells a base type, a class and an array apart.  A class name is
  -- all that stands between the first character and the last one, whatever it holds.
  induction t with
  | base b =>
    intro u h
    cases u with
    | base b' => rw [BaseType.letter_injective (List.cons.inj h).1]
    | object name => apply absurd (List.cons.inj h).1 (b.letter_ne rfl)
    | array element => apply absurd (List.cons.inj h).1 (b.letter_ne rfl)
  | object name =>
    intro u h
    cases u with
    | base b => apply absurd (List.cons.inj h).1.symm (b.letter_ne rfl)
    | object name' =>
      obtain ⟨-, hname⟩ := List.cons.inj h
      have htext : name.text = name'.text :=
        String.toList_injective (List.append_cancel_right hname)
      cases name
      cases name'
      cases htext
      rfl
    | array element => simp [spelling] at h
  | array element ih =>
    intro u h
    cases u with
    | base b => apply absurd (List.cons.inj h).1.symm (b.letter_ne rfl)
    | object name => simp [spelling] at h
    | array element' =>
      obtain ⟨-, helement⟩ := List.cons.inj h
      rw [ih helement]

/-- Types with the same descriptor are the same, well formed or not. -/
theorem descriptor_injective :
  Function.Injective descriptor
  := by
  intro t u h
  apply spelling_injective (String.ofList_injective h)

/-- If a text begins with the spellings of two well-formed types, the types are the same,
and so is what follows. -/
theorem spelling_append_inj
    {t u : FieldType} (ht : t.WellFormed) (hu : u.WellFormed) {rest rest' : List Char}
    (h : t.spelling ++ rest = u.spelling ++ rest') :
  t = u ∧ rest = rest'
  := by
  have hread : some (t, rest) = some (u, rest') := by
    rw [← read?_spelling ht rest, h, read?_spelling hu rest']
  apply Prod.mk.inj (Option.some.inj hread)

/-! ### Whole texts -/

/-- A text is read as a type exactly when the type is well formed and the text is its
descriptor. -/
theorem parse_eq_ok_iff
    {s : String} {t : FieldType} :
  parse s = .ok t ↔ t.WellFormed ∧ t.descriptor = s
  := by
  rw [parse, DescriptorError.require_eq_ok_iff, ofSpelling?_eq_some_iff, ← toList_descriptor,
    String.toList_inj, eq_comm]

/-- The descriptor of a type is read as that type if the type is well formed, and as no
type otherwise. -/
theorem parse_descriptor
    (t : FieldType) :
  parse t.descriptor = if t.WellFormed then .ok t else .error .invalid
  := by
  split
  · next hwf => apply parse_eq_ok_iff.mpr ⟨hwf, rfl⟩
  · next hwf =>
    cases hread : parse t.descriptor with
    | error e => rfl
    | ok u =>
      obtain ⟨hu, hdescriptor⟩ := parse_eq_ok_iff.mp hread
      rw [descriptor_injective hdescriptor] at hu
      contradiction

end FieldType

/-- A text is read as a return exactly when it is the letter for nothing or is read as the
type that is returned. -/
theorem ReturnDescriptor.parse_eq_ok_iff
    {s : String} {r : ReturnDescriptor} :
  parse s = .ok r
    ↔ r = .void ∧ s = "V" ∨ ∃ t : FieldType, r = .value t ∧ t.WellFormed ∧ t.descriptor = s
  := by
  rw [parse, DescriptorError.require_eq_ok_iff, ofSpelling?_eq_some_iff]
  cases r with
  | void =>
    have htext : s.toList = ['V'] ↔ s = "V" := by
      rw [← String.toList_inj]
      rfl
    simp [WellFormed, spelling, htext]
  | value t =>
    have htext : s.toList = t.spelling ↔ t.descriptor = s := by
      rw [← t.toList_descriptor, String.toList_inj, eq_comm]
    simp [WellFormed, spelling, htext]

/-- The descriptor of a type is read as a return exactly as it is read as a type. -/
theorem ReturnDescriptor.parse_descriptor
    (t : FieldType) :
  parse t.descriptor = (FieldType.parse t.descriptor).map value
  := by
  rw [parse, FieldType.parse, t.toList_descriptor, ofSpelling?, if_neg t.spelling_ne_void]
  cases FieldType.ofSpelling? t.spelling <;> rfl

/-- Types and returns are read exactly.  A text is read as a type if and only if the type
is well formed and the text is its descriptor.  No two types, well formed or not, have the
same descriptor, so that the descriptor of a type that is not well formed is read as no
type at all.  A text is read as a return if and only if it is the letter for nothing, or
the descriptor of the well-formed type that is returned. -/
theorem types_read_exactly :
  (∀ (s : String) (t : FieldType),
      FieldType.parse s = .ok t ↔ t.WellFormed ∧ t.descriptor = s)
    ∧ Function.Injective FieldType.descriptor
    ∧ (∀ t : FieldType,
      FieldType.parse t.descriptor = if t.WellFormed then .ok t else .error .invalid)
    ∧ ∀ (s : String) (r : ReturnDescriptor),
      ReturnDescriptor.parse s = .ok r
        ↔ r = .void ∧ s = "V" ∨ ∃ t : FieldType, r = .value t ∧ t.WellFormed ∧ t.descriptor = s
  := by
  constructor
  · intro s t
    apply FieldType.parse_eq_ok_iff
  constructor
  · apply FieldType.descriptor_injective
  constructor
  · apply FieldType.parse_descriptor
  · intro s r
    apply ReturnDescriptor.parse_eq_ok_iff

/-! ### The two readers of types -/

namespace FieldType

/-- A text is accepted when it is read as some type. -/
def Accepted (s : String) : Prop :=
  ∃ t, parse s = .ok t

/-- Of the beginnings of a text at most one is accepted. -/
theorem Accepted.unique
    {x y : String} (hx : Accepted x) (hy : Accepted y) {cs : List Char}
    (hxcs : x.toList <+: cs) (hycs : y.toList <+: cs) :
  x = y
  := by
  obtain ⟨t, hreadt⟩ := hx
  obtain ⟨u, hreadu⟩ := hy
  obtain ⟨ht, rfl⟩ := parse_eq_ok_iff.mp hreadt
  obtain ⟨hu, rfl⟩ := parse_eq_ok_iff.mp hreadu
  obtain ⟨rest, hrest⟩ := hxcs
  obtain ⟨rest', hrest'⟩ := hycs
  rw [toList_descriptor] at hrest hrest'
  obtain ⟨rfl, -⟩ := spelling_append_inj ht hu (hrest.trans hrest'.symm)
  rfl

/-- A type is taken off the front of a text exactly when a beginning of the text is read
as that type and the rest of the text is left. -/
theorem read?_eq_some_iff_parse
    {cs : List Char} {t : FieldType} {rest : List Char} :
  read? cs = some (t, rest) ↔ ∃ x : String, cs = x.toList ++ rest ∧ parse x = .ok t
  := by
  rw [read?_eq_some_iff]
  constructor
  · rintro ⟨hwf, hcs⟩
    use t.descriptor
    rw [toList_descriptor]
    use hcs, parse_eq_ok_iff.mpr ⟨hwf, rfl⟩
  · rintro ⟨x, rfl, hparse⟩
    obtain ⟨hwf, rfl⟩ := parse_eq_ok_iff.mp hparse
    rw [toList_descriptor]
    use hwf

/-- The reader that takes a type off the front of a text agrees with the reader of whole
texts: it succeeds exactly when a beginning of the text is read as the type, and leaves the
rest.  There is at most one such beginning, whatever the type and the rest, since no
accepted text is a proper beginning of another one. -/
theorem read?_agrees_parse
    (c : Char) (cs : List Char) :
  (∀ (t : FieldType) (rest : List Char),
      read? (c :: cs) = some (t, rest)
        ↔ ∃ x : String, c :: cs = x.toList ++ rest ∧ parse x = .ok t)
    ∧ (∀ x y : String, Accepted x → Accepted y →
      x.toList <+: c :: cs → y.toList <+: c :: cs → x = y)
    ∧ ∀ x y : String, Accepted x → Accepted y → x.toList <+: y.toList → x = y
  := by
  constructor
  · intro t rest
    apply read?_eq_some_iff_parse
  constructor
  · intro x y hx hy hxcs hycs
    apply hx.unique hy hxcs hycs
  · intro x y hx hy hprefix
    apply hx.unique hy hprefix (List.prefix_refl _)

/-- A text of an array of a class with a parenthesis in its name, and more.  The array is
the only type that the text begins with. -/
theorem read?_agrees_parse_parenthesis :
  read? "[La);I)V".toList = some (.array (.object ⟨"a)"⟩), "I)V".toList)
    ∧ ∀ x : String, Accepted x → x.toList <+: "[La);I)V".toList → x = "[La);"
  := by
  obtain ⟨hread, hunique, -⟩ := read?_agrees_parse '[' "La);I)V".toList
  have hparse : parse "[La);" = .ok (.array (.object ⟨"a)"⟩)) := by decide
  constructor
  · apply (hread _ _).mpr
    exact ⟨"[La);", rfl, hparse⟩
  · intro x hx hprefix
    apply hunique x "[La);" hx ⟨_, hparse⟩ hprefix
    use "I)V".toList
    rfl

end FieldType

end ClassFile
