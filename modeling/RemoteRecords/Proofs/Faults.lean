import Mathlib.Data.List.Basic

/-! Faults: what steps do not fail with, and so their sequences do not. -/

namespace RemoteRecords

/-- An answer that is no fault of a kind. -/
def Avoids {ε α : Type} (kind : ε → Prop) (answer : Except ε α) : Prop :=
  ∀ fault, answer = .error fault → ¬ kind fault

namespace Avoids

variable {ε ε' α β : Type} {kind : ε → Prop}

/-- A value is no fault at all. -/
theorem ok (value : α) : Avoids kind (.ok value) := by
  -- A value is not an error, so there is nothing to show of one.
  simp [Avoids]

/-- A fault of another kind is no fault of this one. -/
theorem error {fault : ε} (other : ¬ kind fault) :
    Avoids kind (.error fault : Except ε α) := by
  -- The only fault that the answer can be is the given one.
  simpa [Avoids] using other

/-- Steps in sequence avoid what each of them avoids. -/
theorem bind {answer : Except ε α} {next : α → Except ε β} (first : Avoids kind answer)
    (rest : ∀ value, answer = .ok value → Avoids kind (next value)) :
    Avoids kind (answer >>= next) := by
  -- The sequence fails with the fault of its first step, or else with one of the second.
  cases answer with
  | ok value => exact rest value rfl
  | error fault => exact error (first fault rfl)

/-- What becomes of a value does not matter. -/
theorem map {answer : Except ε α} (first : Avoids kind answer) (next : α → β) :
    Avoids kind (answer.map next) := by
  -- Only values are changed, so a fault is the one that was there.
  cases answer with
  | ok value => exact ok _
  | error fault => exact error (first fault rfl)

/-- Faults under another name are of a kind if they were before. -/
theorem mapError {kind' : ε' → Prop} {answer : Except ε α} {name : ε → ε'}
    (first : Avoids kind answer) (same : ∀ fault, kind' (name fault) → kind fault) :
    Avoids kind' (answer.mapError name) := by
  -- A fault keeps its kind under its new name, and a value has no fault to rename.
  cases answer with
  | ok value => exact ok value
  | error fault => exact error fun named => first fault rfl (same fault named)

/-- A run over a list avoids what is avoided for each of its items. -/
theorem mapM {step : α → Except ε β} {items : List α}
    (each : ∀ item ∈ items, Avoids kind (step item)) : Avoids kind (items.mapM step) := by
  -- The run is the first step followed by the run over the others.
  induction items with
  | nil => exact ok []
  | cons item rest ih =>
    obtain ⟨here, others⟩ := List.forall_mem_cons.mp each
    rw [List.mapM_cons]
    exact here.bind fun value _ => (ih others).bind fun _ _ => ok _

end Avoids

end RemoteRecords
