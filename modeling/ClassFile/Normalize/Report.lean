import ClassFile.Normalize.Event

/-!
# Reports

A normalization step returns a value together with the anomalies it found and the events
it logged, both in order.  Steps are put together as a monad, in which the anomalies and
the events of the second step follow those of the first.

Whether an event is logged is up to the step; whether an anomaly is reported is not.
-/

namespace ClassFile

/-- A value with the anomalies found and the events logged on the way to it. -/
@[ext]
structure Report (α : Type) where
  /-- The value. -/
  value : α
  /-- The anomalies, in the order in which they were found. -/
  anomalies : List Anomaly
  /-- The events, in the order in which they were logged. -/
  log : List Event
deriving DecidableEq, Repr

namespace Report

variable {α β : Type}

/-! ### Steps in sequence -/

/-- A step followed by another one that depends on its value. -/
def andThen (r : Report α) (next : α → Report β) : Report β where
  value := (next r.value).value
  anomalies := r.anomalies ++ (next r.value).anomalies
  log := r.log ++ (next r.value).log

instance : Monad Report where
  pure a := ⟨a, [], []⟩
  bind := andThen

@[simp]
theorem value_pure
    (a : α) :
  (pure a : Report α).value = a
  := rfl

@[simp]
theorem anomalies_pure
    (a : α) :
  (pure a : Report α).anomalies = []
  := rfl

@[simp]
theorem log_pure
    (a : α) :
  (pure a : Report α).log = []
  := rfl

@[simp]
theorem value_bind
    (r : Report α) (next : α → Report β) :
  (r >>= next).value = (next r.value).value
  := rfl

@[simp]
theorem anomalies_bind
    (r : Report α) (next : α → Report β) :
  (r >>= next).anomalies = r.anomalies ++ (next r.value).anomalies
  := rfl

@[simp]
theorem log_bind
    (r : Report α) (next : α → Report β) :
  (r >>= next).log = r.log ++ (next r.value).log
  := rfl

@[simp]
theorem value_map
    (f : α → β) (r : Report α) :
  (f <$> r).value = f r.value
  := rfl

@[simp]
theorem anomalies_map
    (f : α → β) (r : Report α) :
  (f <$> r).anomalies = r.anomalies
  := List.append_nil _

@[simp]
theorem log_map
    (f : α → β) (r : Report α) :
  (f <$> r).log = r.log
  := List.append_nil _

instance : LawfulMonad Report := LawfulMonad.mk' _
  (by
    intro _ r
    apply Report.ext
    · rfl
    · apply List.append_nil
    · apply List.append_nil)
  (by
    intro _ _ a next
    rfl)
  (by
    intro _ _ _ r next next'
    apply Report.ext
    · rfl
    · apply List.append_assoc
    · apply List.append_assoc)

/-! ### Single events and anomalies -/

/-- Logs an event if `verbose` holds. -/
def note (verbose : Bool) (event : Event) : Report Unit :=
  ⟨(), [], if verbose then [event] else []⟩

/-- Reports an anomaly, and logs it if `verbose` holds. -/
def raise (verbose : Bool) (anomaly : Anomaly) : Report Unit :=
  ⟨(), [anomaly], if verbose then [.found anomaly] else []⟩

@[simp]
theorem anomalies_note
    (verbose : Bool) (event : Event) :
  (note verbose event).anomalies = []
  := rfl

@[simp]
theorem log_note
    (verbose : Bool) (event : Event) :
  (note verbose event).log = if verbose then [event] else []
  := rfl

@[simp]
theorem anomalies_raise
    (verbose : Bool) (anomaly : Anomaly) :
  (raise verbose anomaly).anomalies = [anomaly]
  := rfl

@[simp]
theorem log_raise
    (verbose : Bool) (anomaly : Anomaly) :
  (raise verbose anomaly).log = if verbose then [.found anomaly] else []
  := rfl

/-! ### A step for each member of a list -/

/-- The values of a step made for each member of a list. -/
@[simp]
theorem value_mapM
    (step : α → Report β) (l : List α) :
  (l.mapM step).value = l.map fun a => (step a).value
  := by
  induction l with
  | nil => simp
  | cons a l ih =>
    rw [List.mapM_cons, List.map_cons, ← ih]
    rfl

/-- The anomalies of a step made for each member of a list are joined in its order. -/
@[simp]
theorem anomalies_mapM
    (step : α → Report β) (l : List α) :
  (l.mapM step).anomalies = l.flatMap fun a => (step a).anomalies
  := by
  induction l with
  | nil => simp
  | cons a l ih =>
    rw [List.mapM_cons, List.flatMap_cons, ← ih]
    simp

/-- The events of a step made for each member of a list are joined in its order. -/
@[simp]
theorem log_mapM
    (step : α → Report β) (l : List α) :
  (l.mapM step).log = l.flatMap fun a => (step a).log
  := by
  induction l with
  | nil => simp
  | cons a l ih =>
    rw [List.mapM_cons, List.flatMap_cons, ← ih]
    simp

end Report

end ClassFile
