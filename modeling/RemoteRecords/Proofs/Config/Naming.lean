import Mathlib.Logic.Function.Basic
import RemoteRecords.Config.Mapping

/-! Naming: under one convention, different relationships have different foreign-key columns. -/

namespace RemoteRecords.Naming

/-- A text that is appended can be taken off again. -/
theorem append_injective (text : String) : Function.Injective fun name : String => name ++ text := by
  -- Letter by letter, the same end can be cancelled.
  intro left right same
  apply String.toList_injective
  have letters := congrArg String.toList same
  rw [String.toList_append, String.toList_append] at letters
  exact List.append_cancel_right letters

/-- A name with a stem is the stem with `__r` behind it. -/
theorem eq_of_customStem? {name stem : String} (found : customStem? name = some stem) :
    name = stem ++ "__r" := by
  unfold customStem? at found
  split at found
  · rename_i letters backwards
    cases found
    -- Read forwards again, the name ends in the three letters that were seen first.
    apply String.toList_injective
    have forwards := congrArg List.reverse backwards
    simpa using forwards
  · cases found

/-- A column named after a stem is never one that was named by appending `Id`, since the two end in
different letters. -/
theorem stem_ne_append_id (stem name : String) : stem ++ "__c" ≠ name ++ "Id" := by
  -- The last letter of the one is a small c, that of the other a small d.
  intro same
  have last := congrArg (fun text => text.toList.getLast?) same
  simp [String.toList_append] at last

/-- Relationships with the same foreign-key column have the same name. -/
theorem referenceKey_injective (naming : Naming) : Function.Injective naming.referenceKey := by
  -- Each rule of a convention appends to a stem, and the two rules of the custom one never meet.
  cases naming with
  | standard => exact append_injective "Id"
  | suffix text => exact append_injective text
  | custom =>
    intro left right same
    simp only [referenceKey] at same
    -- Both names have stems or neither has, by the last letter of the column.
    cases leftStem : customStem? left with
    | none =>
      cases rightStem : customStem? right with
      | none =>
        simp only [leftStem, rightStem] at same
        exact append_injective "Id" same
      | some stem =>
        simp only [leftStem, rightStem] at same
        exact absurd same.symm (stem_ne_append_id stem left)
    | some stem =>
      cases rightStem : customStem? right with
      | none =>
        simp only [leftStem, rightStem] at same
        exact absurd same (stem_ne_append_id stem right)
      | some other =>
        simp only [leftStem, rightStem] at same
        rw [eq_of_customStem? leftStem, eq_of_customStem? rightStem, append_injective "__c" same]

end RemoteRecords.Naming
