import ClassFile.Descriptor.MethodDescriptor

/-!
# Reading descriptors

There are two readers of field types.  `FieldType.ofSpelling?` reads a text that must be
one descriptor as a whole.  `FieldType.read?` takes a descriptor off the front of a text
and returns what follows it; it reads the parameters of a method, which stand next to
each other with nothing between them.

A class name reaches up to the first semicolon, so it may hold brackets and parentheses.
Neither the number of array levels nor the number of parameters is bounded.
-/

namespace ClassFile

/-- Why a text was not read. -/
inductive DescriptorError where
  /-- The text is no descriptor of the kind asked for. -/
  | invalid
deriving DecidableEq, Repr

namespace DescriptorError

/-- The text of the error. -/
def message : DescriptorError → String
  | invalid => "Invalid descriptor"

/-- The value that was read, or the error if there is none. -/
def require {α : Type} : Option α → Except DescriptorError α
  | some a => .ok a
  | none => .error invalid

end DescriptorError

namespace BaseType

/-- Reads the letter of a base type. -/
def parse (letter : Char) : Except DescriptorError BaseType :=
  DescriptorError.require (ofLetter? letter)

end BaseType

namespace ClassName

/-- Takes a name and the semicolon that closes it off the front of a text. -/
def read? (cs : List Char) : Option (ClassName × List Char) :=
  match cs.takeWhile (· != ';'), cs.dropWhile (· != ';') with
  | c :: name, _ :: rest => some (⟨String.ofList (c :: name)⟩, rest)
  | _, _ => none

/-- Reads a text that is a name and the semicolon that closes it as a whole: the first
semicolon ends the name, and nothing follows it. -/
def ofClosed? (cs : List Char) : Option ClassName :=
  match read? cs with
  | some (name, []) => some name
  | _ => none

end ClassName

namespace FieldType

/-- Reads a text that is the descriptor of a field type as a whole. -/
def ofSpelling? : List Char → Option FieldType
  | '[' :: cs => (ofSpelling? cs).map array
  | 'L' :: cs => (ClassName.ofClosed? cs).map object
  | [c] => (BaseType.ofLetter? c).map base
  | _ => none

/-- Takes the descriptor of a field type off the front of a text. -/
def read? : List Char → Option (FieldType × List Char)
  | [] => none
  | '[' :: cs => (read? cs).map fun (t, rest) => (array t, rest)
  | 'L' :: cs => (ClassName.read? cs).map fun (name, rest) => (object name, rest)
  | c :: cs => (BaseType.ofLetter? c).map fun b => (base b, cs)

/-- Reads the descriptor of a field type. -/
def parse (s : String) : Except DescriptorError FieldType :=
  DescriptorError.require (ofSpelling? s.toList)

end FieldType

/-- Reading a class name uses up at least one character. -/
theorem ClassName.length_lt_of_read?
    {cs : List Char} {name : ClassName} {rest : List Char}
    (h : ClassName.read? cs = some (name, rest)) :
  rest.length < cs.length
  := by
  unfold ClassName.read? at h
  split at h
  · next c cs' d rest' htake hdrop =>
    obtain ⟨-, rfl⟩ := Prod.mk.inj (Option.some.inj h)
    have := congrArg List.length (List.takeWhile_append_dropWhile (p := (· != ';')) (l := cs))
    simp only [htake, hdrop, List.length_append, List.length_cons] at this
    omega
  · contradiction

/-- Reading a field type uses up at least one character. -/
theorem FieldType.length_lt_of_read?
    {cs : List Char} {t : FieldType} {rest : List Char}
    (h : FieldType.read? cs = some (t, rest)) :
  rest.length < cs.length
  := by
  induction cs generalizing t with
  | nil => simp [read?] at h
  | cons c cs ih =>
    unfold read? at h
    split at h
    · contradiction
    · next heq =>
      obtain ⟨rfl, rfl⟩ := List.cons.inj heq
      obtain ⟨⟨t', rest'⟩, h', heq'⟩ := Option.map_eq_some_iff.mp h
      obtain ⟨-, rfl⟩ := Prod.mk.inj heq'
      have := ih h'
      simp only [List.length_cons]
      omega
    · next heq =>
      obtain ⟨rfl, rfl⟩ := List.cons.inj heq
      obtain ⟨⟨name, rest'⟩, h', heq'⟩ := Option.map_eq_some_iff.mp h
      obtain ⟨-, rfl⟩ := Prod.mk.inj heq'
      have := ClassName.length_lt_of_read? h'
      simp only [List.length_cons]
      omega
    · next heq =>
      obtain ⟨rfl, rfl⟩ := List.cons.inj heq
      obtain ⟨b, -, heq'⟩ := Option.map_eq_some_iff.mp h
      obtain ⟨-, rfl⟩ := Prod.mk.inj heq'
      simp

namespace ReturnDescriptor

/-- Reads a text that is the descriptor of a return as a whole. -/
def ofSpelling? (cs : List Char) : Option ReturnDescriptor :=
  if cs = ['V'] then some void else (FieldType.ofSpelling? cs).map value

/-- Reads the descriptor of a return. -/
def parse (s : String) : Except DescriptorError ReturnDescriptor :=
  DescriptorError.require (ofSpelling? s.toList)

end ReturnDescriptor

namespace MethodDescriptor

/-- Takes the descriptors of parameters and the parenthesis that closes them off the
front of a text. -/
def readParameters? : List Char → Option (List FieldType × List Char)
  | ')' :: rest => some ([], rest)
  | cs =>
    match _h : FieldType.read? cs with
    | some (t, rest) => (readParameters? rest).map fun (ts, rest') => (t :: ts, rest')
    | none => none
termination_by cs => cs.length
decreasing_by exact FieldType.length_lt_of_read? _h

/-- Reads a text that is the descriptor of a method as a whole. -/
def ofSpelling? : List Char → Option MethodDescriptor
  | '(' :: cs => do
    let (parameters, rest) ← readParameters? cs
    let result ← ReturnDescriptor.ofSpelling? rest
    return { parameters, result }
  | _ => none

/-- Reads the descriptor of a method. -/
def parse (s : String) : Except DescriptorError MethodDescriptor :=
  DescriptorError.require (ofSpelling? s.toList)

end MethodDescriptor

end ClassFile
