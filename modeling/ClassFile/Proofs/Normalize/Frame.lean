import ClassFile.Proofs.Normalize.CanonicalForm

/-!
# What a pipeline leaves as it was

Aligners change the parameter annotations of constructors, strippers remove local variable
tables, and the host may give a class another name and other flags.  All the rest of a
class stays as it was, however often such a pipeline runs: its records of inner classes,
its methods and their order, and everything in a method but these two things.

The relation of a class to what has become of it (`Class.Frame`) says whether tables are
stripped on the way.  It composes, so what each stage leaves alone is left alone by a run
of stages and by any number of runs.
-/

namespace ClassFile

/-! ### Bodies and methods -/

namespace MethodBody

/-- The body as it was, but without its local variable table if tables are stripped and
this one is not empty. -/
def framed (strips : Bool) (b : MethodBody) : MethodBody :=
  { b with localVariables := b.localVariables.filter fun table => !strips || table.isEmpty }

/-- Nothing happens to a body if tables are not stripped. -/
theorem framed_false :
  framed false = id
  := by
  funext b
  obtain ⟨maxStack, maxLocals, code, lineNumbers, table?, attributes⟩ := b
  cases table? <;> rfl

/-- Stripping a body leaves the rest of it as it was. -/
theorem framed_true :
  framed true = stripped
  := by
  funext b
  obtain ⟨maxStack, maxLocals, code, lineNumbers, table?, attributes⟩ := b
  rcases table? with _ | ⟨_ | ⟨entry, entries⟩⟩
  · rfl
  · rfl
  · rfl

/-- Tables are stripped on the way if they are stripped on some part of it. -/
theorem framed_comp_framed
    (strips strips' : Bool) :
  framed strips' ∘ framed strips = framed (strips || strips')
  := by
  cases strips with
  | false => rw [framed_false, Function.comp_id, Bool.false_or]
  | true =>
    cases strips' with
    | false => rw [framed_false, Function.id_comp, Bool.true_or]
    | true =>
      rw [Bool.true_or, framed_true]
      funext b
      apply b.stripped_stripped

end MethodBody

namespace Method

/-- The relation of a method to the method that it has become, with or without the removal
of local variable tables: nothing else has changed but the parameter annotations of a
constructor. -/
structure Frame (strips : Bool) (m m' : Method) : Prop where
  flags : m'.flags = m.flags
  name : m'.name = m.name
  descriptor : m'.descriptor = m.descriptor
  owner : m'.owner = m.owner
  body : m'.body = m.body.map (MethodBody.framed strips)
  annotations : ¬ m.IsConstructor → ∀ v, m'.annotations v = m.annotations v

namespace Frame

theorem refl
    (m : Method) :
  m.Frame false m
  := by
  constructor
  · rfl
  · rfl
  · rfl
  · rfl
  · rw [MethodBody.framed_false, Option.map_id, id]
  · intro _ v
    rfl

/-- What is left alone twice is left alone on the whole. -/
theorem trans
    {strips strips' : Bool} {m m' m'' : Method}
    (h : m.Frame strips m') (h' : m'.Frame strips' m'') :
  m.Frame (strips || strips') m''
  := by
  constructor
  · apply h'.flags.trans h.flags
  · apply h'.name.trans h.name
  · apply h'.descriptor.trans h.descriptor
  · apply h'.owner.trans h.owner
  · rw [h'.body, h.body, Option.map_map, MethodBody.framed_comp_framed]
  · intro hm v
    have hm' : ¬ m'.IsConstructor := fun hm' => hm (h.name.symm.trans hm')
    rw [h'.annotations hm', h.annotations hm]

end Frame

theorem frame_stripped
    (m : Method) :
  m.Frame true m.stripped
  := by
  constructor
  · rfl
  · rfl
  · rfl
  · rfl
  · rw [MethodBody.framed_true]
    rfl
  · intro _
    apply m.annotations_stripped

/-- Alignment of a constructor changes nothing but its parameter annotations. -/
theorem frame_aligned
    {m : Method} (hm : m.IsConstructor) (synthetic : List FieldType) :
  m.Frame false (m.aligned synthetic)
  := by
  rw [aligned]
  split
  · constructor
    · rfl
    · rfl
    · rfl
    · rfl
    · apply (Frame.refl m).body
    · intro hne
      contradiction
  · apply Frame.refl

end Method

/-! ### Classes -/

namespace Class

/-- The relation of a class to the class that it has become, with or without the removal of
local variable tables.  It may have another name and other flags. -/
structure Frame (strips : Bool) (c c' : Class) : Prop where
  innerClasses : c'.innerClasses = c.innerClasses
  methods : List.Forall₂ (Method.Frame strips) c.methods c'.methods

namespace Frame

theorem refl
    (c : Class) :
  c.Frame false c
  := by
  constructor
  · rfl
  · apply List.forall₂_same.mpr
    intro m _
    apply Method.Frame.refl

theorem trans
    {strips strips' : Bool} {c c' c'' : Class}
    (h : c.Frame strips c') (h' : c'.Frame strips' c'') :
  c.Frame (strips || strips') c''
  := by
  constructor
  · apply h'.innerClasses.trans h.innerClasses
  · apply forall₂_trans h.methods h'.methods
    intro m m' m'' hm hm'
    apply hm.trans hm'

/-- A method is found at the place where it was. -/
theorem methodIndex?
    {strips : Bool} {c c' : Class} (h : c.Frame strips c')
    (name : String) (descriptor : MethodDescriptor) :
  c'.methodIndex? name descriptor = c.methodIndex? name descriptor
  := by
  have hmethods := h.methods
  rw [Class.methodIndex?, Class.methodIndex?]
  -- The induction is on the methods side by side, apart from their classes.
  generalize c.methods = methods at hmethods ⊢
  generalize c'.methods = methods' at hmethods ⊢
  induction hmethods with
  | nil => rfl
  | cons hm _ ih =>
    rw [List.findIdx?_cons, List.findIdx?_cons, hm.name, hm.descriptor, ih]

end Frame

/-- The method found is the one at the place found. -/
theorem method?_eq_bind_methodIndex?
    (c : Class) (name : String) (descriptor : MethodDescriptor) :
  c.method? name descriptor = (c.methodIndex? name descriptor).bind fun i => c.methods[i]?
  := List.find?_eq_bind_findIdx?_getElem?

theorem frame_stripped
    (c : Class) :
  c.Frame true c.stripped
  := by
  constructor
  · rfl
  · apply List.forall₂_map_right_iff.mpr
    apply List.forall₂_same.mpr
    intro m _
    apply m.frame_stripped

theorem frame_aligned
    (c : Class) :
  c.Frame false c.aligned
  := by
  constructor
  · rfl
  · apply List.forall₂_map_right_iff.mpr
    apply List.forall₂_same.mpr
    intro m _
    cases h : c.expectedSyntheticParameters with
    | none =>
      rw [alignedMethod_of_none h]
      apply Method.Frame.refl
    | some synthetic =>
      rw [alignedMethod_of_some h]
      split
      · next hm => apply Method.frame_aligned hm
      · apply Method.Frame.refl

theorem frame_relabel
    (c : Class) (name? : Option ClassName) (flags? : Option (Flags ClassFlag)) :
  c.Frame false (c.relabel name? flags?)
  := by
  constructor
  · rfl
  · apply (Frame.refl c).methods

end Class

/-! ### Stages and pipelines -/

namespace Stage

/-- A stage strips tables only if it is a stripper, and leaves the rest alone. -/
theorem frame_run
    {stage : Stage} (h : stage.IsPass ∨ stage.Relabels) (c : Class) :
  c.Frame stage.isStripper (stage.run c).value
  := by
  obtain ⟨pass, rfl, hvalue⟩ | ⟨pass, rfl, hvalue⟩ | ⟨name, run, name?, flags?, rfl, hvalue⟩ :=
    value_run_cases h c
  · rw [hvalue]
    apply c.frame_aligned
  · rw [hvalue]
    apply c.frame_stripped
  · rw [hvalue]
    apply c.frame_relabel

/-- A run of stages strips tables only if there is a stripper among them, and leaves the
rest alone. -/
theorem frame_foldl_run
    {stages : List Stage} (h : ∀ stage ∈ stages, stage.IsPass ∨ stage.Relabels) (c : Class) :
  c.Frame (stages.any isStripper) (stages.foldl (fun c stage => (stage.run c).value) c)
  := by
  induction stages generalizing c with
  | nil => apply Class.Frame.refl
  | cons stage stages ih =>
    obtain ⟨hstage, hstages⟩ := List.forall_mem_cons.mp h
    rw [List.foldl_cons, List.any_cons]
    apply (frame_run hstage c).trans (ih hstages _)

end Stage

namespace Pipeline

variable {p : Pipeline}

theorem frame_transform
    (h : ∀ stage ∈ p.stages, stage.IsPass ∨ stage.Relabels) (c : Class) :
  c.Frame (p.stages.any Stage.isStripper) (p.transform c).value
  := by
  rw [value_transform]
  apply Stage.frame_foldl_run h

/-- Further runs leave alone what the first run does. -/
theorem frame_repeated
    (h : ∀ stage ∈ p.stages, stage.IsPass ∨ stage.Relabels) (runs : Nat) (c : Class) :
  c.Frame (p.stages.any Stage.isStripper) (p.repeated (runs + 1) c)
  := by
  induction runs with
  | zero => apply frame_transform h
  | succ runs ih =>
    have hstep : p.repeated (runs + 1 + 1) c
        = (p.transform (p.repeated (runs + 1) c)).value := by
      apply Function.iterate_succ_apply'
    rw [hstep, ← Bool.or_self (p.stages.any Stage.isStripper)]
    apply ih.trans (frame_transform h _)

end Pipeline

/-- However often a pipeline of aligners, strippers and stages that relabel the class has
run, at least once: the records of inner classes are as they were, and so are the methods
in their order, except for the parameter annotations of constructors and for local
variable tables.  A table is gone if it was not empty and the pipeline has a stripper, and
is as it was otherwise.  Every name and descriptor leads to the method at the same place,
or to none, before and after. -/
theorem Pipeline.repeated_within_frame
    (p : Pipeline) (hp : ∀ stage ∈ p.stages, stage.IsPass ∨ stage.Relabels)
    (runs : Nat) (c : Class) :
  let c' := p.repeated (runs + 1) c
  c.Frame (p.stages.any Stage.isStripper) c'
    ∧ ∀ name descriptor,
        c'.methodIndex? name descriptor = c.methodIndex? name descriptor
          ∧ c.method? name descriptor
            = (c.methodIndex? name descriptor).bind (fun i => c.methods[i]?)
          ∧ c'.method? name descriptor
            = (c.methodIndex? name descriptor).bind (fun i => c'.methods[i]?)
  := by
  intro c'
  have hframe := frame_repeated hp runs c
  use hframe
  intro name descriptor
  have hindex := hframe.methodIndex? name descriptor
  use hindex, c.method?_eq_bind_methodIndex? name descriptor
  rw [← hindex]
  apply c'.method?_eq_bind_methodIndex?

/-- The class gets another name and loses the table of its constructor, which is found
where it was. -/
theorem Pipeline.repeated_within_frame_planet :
  let p : Pipeline :=
    ⟨true, [.alignAnnotations ⟨true⟩, .relabel "host" (some ⟨"Moon"⟩) none,
      .stripLocals ⟨false⟩]⟩
  let c' := p.repeated 2 .planet
  let descriptor : MethodDescriptor := ⟨[.string, .base .int, .base .double], .void⟩
  (∀ stage ∈ p.stages, stage.IsPass ∨ stage.Relabels)
    ∧ Class.planet.Frame true c'
    ∧ c'.methodIndex? "<init>" descriptor = some 0
    ∧ c'.name = ⟨"Moon"⟩
    ∧ c'.methods.map (fun m => m.body.map MethodBody.localVariables) = [some none]
  := by
  intro p c' descriptor
  have hp : ∀ stage ∈ p.stages, stage.IsPass ∨ stage.Relabels := by
    simp [p, Stage.IsPass, Stage.isAligner, Stage.isStripper, Stage.relabels_relabel]
  obtain ⟨hframe, hmethod⟩ := Pipeline.repeated_within_frame p hp 1 .planet
  obtain ⟨hindex, -, -⟩ := hmethod "<init>" descriptor
  exact ⟨hp, hframe, hindex, rfl, by decide⟩

end ClassFile
