import RemoteRecords.Batch.Execution

/-! Round trips: the cut of a batch loses nothing, and an item's place tells its round trip. -/

namespace RemoteRecords.Execution

/-- Groups that hold at least one item and at most `limit`, all but the last one full. -/
structure Packed {α : Type} (limit : Nat) (groups : List (List α)) : Prop where
  filled : ∀ group ∈ groups, 1 ≤ group.length
  within : ∀ group ∈ groups, group.length ≤ limit
  full : ∀ (place : Nat) (group : List α), groups[place]? = some group →
    place + 1 < groups.length → group.length = limit

/-- Without groups there is none to be packed. -/
theorem packed_nil {α : Type} (limit : Nat) : Packed limit ([] : List (List α)) := by
  -- Nothing is said of any group, and there is none.
  constructor <;> simp

/-- A group comes before packed groups if it is full or the only one. -/
theorem Packed.cons {α : Type} {limit : Nat} {group : List α} {rest : List (List α)}
    (filled : 1 ≤ group.length) (within : group.length ≤ limit)
    (full : rest ≠ [] → group.length = limit) (packed : Packed limit rest) :
    Packed limit (group :: rest) where
  filled := List.forall_mem_cons.mpr ⟨filled, packed.filled⟩
  within := List.forall_mem_cons.mpr ⟨within, packed.within⟩
  full place held atPlace before := by
    cases place with
    | zero =>
      simp only [List.getElem?_cons_zero, Option.some.injEq] at atPlace
      subst atPlace
      -- Another group follows, so this one is full.
      refine full fun empty => ?_
      simp [empty] at before
    | succ place =>
      -- The other groups are packed already.
      simp only [List.getElem?_cons_succ] at atPlace
      simp only [List.length_cons] at before
      exact packed.full place held atPlace (by omega)

/-- Behind the first group, packed groups are packed. -/
theorem Packed.tail {α : Type} {limit : Nat} {group : List α} {rest : List (List α)}
    (packed : Packed limit (group :: rest)) : Packed limit rest where
  filled held listed := packed.filled held (List.mem_cons_of_mem _ listed)
  within held listed := packed.within held (List.mem_cons_of_mem _ listed)
  full place held atPlace before := by
    -- The group stands one place further on in the whole.
    refine packed.full (place + 1) held ?_ ?_
    · simpa using atPlace
    · simp only [List.length_cons]
      omega

/-- Groups of the same sizes are packed alike. -/
theorem Packed.of_lengths {α β : Type} {limit : Nat} {groups : List (List α)}
    {others : List (List β)} (packed : Packed limit groups)
    (alike : others.map List.length = groups.map List.length) : Packed limit others := by
  -- At every place where there is another group, there is one of the same size.
  have sizes : ∀ (place : Nat) (other : List β), others[place]? = some other →
      ∃ group : List α, groups[place]? = some group ∧ other.length = group.length := by
    intro place other atPlace
    have same := congrArg (·[place]?) alike
    simp only [List.getElem?_map, atPlace, Option.map_some] at same
    obtain ⟨group, held, length⟩ := Option.map_eq_some_iff.mp same.symm
    exact ⟨group, held, length.symm⟩
  have count : others.length = groups.length := by simpa using congrArg List.length alike
  -- All three conditions are about sizes only.
  refine ⟨fun other listed => ?_, fun other listed => ?_, fun place other atPlace before => ?_⟩
  · obtain ⟨place, atPlace⟩ := List.mem_iff_getElem?.mp listed
    obtain ⟨group, held, length⟩ := sizes place other atPlace
    rw [length]
    exact packed.filled group (List.mem_of_getElem? held)
  · obtain ⟨place, atPlace⟩ := List.mem_iff_getElem?.mp listed
    obtain ⟨group, held, length⟩ := sizes place other atPlace
    rw [length]
    exact packed.within group (List.mem_of_getElem? held)
  · obtain ⟨group, held, length⟩ := sizes place other atPlace
    rw [length]
    exact packed.full place group held (by omega)

/-- The item at a place of the whole stands in the group of the quotient at the place of the
remainder. -/
theorem Packed.getElem?_flatten {α : Type} {limit : Nat} (positive : 0 < limit)
    {groups : List (List α)} (packed : Packed limit groups) (place : Nat) :
    groups.flatten[place]? = groups[place / limit]?.bind (·[place % limit]?) := by
  -- The first group takes the places below the limit, and the others are counted from its end.
  induction groups generalizing place with
  | nil => simp
  | cons group rest ih =>
    have within := packed.within group List.mem_cons_self
    have others := ih packed.tail
    rw [List.flatten_cons]
    rcases Nat.lt_or_ge place limit with here | beyond
    · -- The place lies in the first group, or in no group if the first one is short.
      rw [Nat.div_eq_of_lt here, Nat.mod_eq_of_lt here]
      simp only [List.getElem?_cons_zero, Option.bind_some]
      rcases Nat.lt_or_ge place group.length with inside | outside
      · exact List.getElem?_append_left inside
      · -- A short group is the last one, so the place lies beyond all of them.
        have alone : rest = [] := by
          cases rest with
          | nil => rfl
          | cons next more =>
            have full := packed.full 0 group rfl (by simp)
            omega
        simp [alone]
    · -- The place lies behind the first group, which is full if anything follows.
      -- Going on behind it is one group further and a whole limit of places less.
      have quotient : place / limit = (place - limit) / limit + 1 := by
        rw [Nat.div_eq_sub_div positive beyond]
      have remainder : place % limit = (place - limit) % limit := Nat.mod_eq_sub_mod beyond
      rw [quotient, remainder, List.getElem?_cons_succ, ← others]
      rw [List.getElem?_append_right (by omega)]
      cases rest with
      | nil =>
        -- Behind the last group nothing is found, whatever its size.
        simp
      | cons next more =>
        have full := packed.full 0 group rfl (by simp)
        rw [full]

/-- The round trips together hold the items in their order. -/
theorem flatten_roundTrips {α : Type} (limit : Nat) (items : List α) :
    (roundTrips limit items).flatten = items := by
  -- The cut takes round trips from the front, one by one.
  fun_induction roundTrips limit items with
  | case1 => rfl
  | case2 first rest ih =>
    -- What the first round trip takes and what it drops make up the list.
    rw [List.flatten_cons, ih, List.cons_append, List.take_append_drop]

/-- Round trips are packed. -/
theorem packed_roundTrips {α : Type} {limit : Nat} (positive : 0 < limit) (items : List α) :
    Packed limit (roundTrips limit items) := by
  -- Each round trip holds its first item and those that fit with it.
  fun_induction roundTrips limit items with
  | case1 => exact packed_nil limit
  | case2 first rest ih =>
    refine Packed.cons ?_ ?_ (fun more => ?_) ih
    · simp
    · simp only [List.length_cons, List.length_take]
      omega
    · -- Items are left over only if the first round trip took as many as it can hold.
      have left : rest.drop (limit - 1) ≠ [] := fun nothing => more (by rw [nothing, roundTrips])
      have longer : limit - 1 < rest.length := by simpa using left
      simp only [List.length_cons, List.length_take]
      omega

end RemoteRecords.Execution
