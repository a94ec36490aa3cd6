import Mathlib.Data.List.Forall2

/-! Pairings: lists and options whose items stand for each other, and runs over them. -/

namespace RemoteRecords

/-- Of two options that stand for each other, none has a value or both have. -/
theorem rel_cases {α β : Type} {relation : α → β → Prop} {left : Option α} {right : Option β}
    (paired : Option.Rel relation left right) :
    left = none ∧ right = none ∨
      ∃ value value', left = some value ∧ right = some value' ∧ relation value value' := by
  -- Options stand for each other in one of the two ways in which the relation is built.
  cases paired with
  | none => exact .inl ⟨rfl, rfl⟩
  | some related => exact .inr ⟨_, _, rfl, rfl, related⟩

/-- Options that stand for each other have a value alike. -/
theorem isSome_eq_of_rel {α β : Type} {relation : α → β → Prop} {left : Option α}
    {right : Option β} (paired : Option.Rel relation left right) : left.isSome = right.isSome := by
  -- Either both are empty or both are filled.
  cases paired <;> rfl

/-- What is searched for alike in two lists is found alike. -/
theorem rel_find? {α β : Type} {relation : α → β → Prop} {p : α → Bool} {q : β → Bool}
    (agree : ∀ item item', relation item item' → p item = q item') {items : List α}
    {items' : List β} (paired : List.Forall₂ relation items items') :
    Option.Rel relation (items.find? p) (items'.find? q) := by
  induction paired with
  | nil => exact .none
  | @cons item item' _ _ related _ ih =>
    -- The first items are both passed over or both found.
    rw [List.find?_cons, List.find?_cons, agree item item' related]
    cases q item' with
    | true => exact .some related
    | false => exact ih

/-- Every item on the right of a pairing stands beside one on the left. -/
theorem exists_left_of_forall₂ {α β : Type} {relation : α → β → Prop} {left : List α}
    {right : List β} (paired : List.Forall₂ relation left right) {value : β}
    (listed : value ∈ right) :
    ∃ item ∈ left, relation item value := by
  -- The value stands at the head of the pairing or in its rest.
  induction paired with
  | nil => cases listed
  | cons first rest ih =>
    rcases List.mem_cons.mp listed with rfl | later
    · exact ⟨_, List.mem_cons_self, first⟩
    · obtain ⟨item, held, related⟩ := ih later
      exact ⟨item, List.mem_cons_of_mem _ held, related⟩

/-- A pairing is split where one of its sides is. -/
theorem exists_split_of_forall₂ {α β : Type} {relation : α → β → Prop} {ahead behind : List α}
    {item : α} {values : List β} (paired : List.Forall₂ relation (ahead ++ item :: behind) values) :
    ∃ first value rest, values = first ++ value :: rest ∧ List.Forall₂ relation ahead first ∧
      relation item value ∧ List.Forall₂ relation behind rest := by
  -- The items ahead are paired one by one, and the next value is that of the item.
  induction ahead generalizing values with
  | nil =>
    obtain ⟨value, rest, related, others, rfl⟩ := List.forall₂_cons_left_iff.mp paired
    exact ⟨[], value, rest, rfl, .nil, related, others⟩
  | cons head tail ih =>
    obtain ⟨value, rest, related, others, rfl⟩ := List.forall₂_cons_left_iff.mp paired
    obtain ⟨first, value', rest', rfl, before, here, after⟩ := ih others
    exact ⟨value :: first, value', rest', rfl, .cons related before, here, after⟩

/-- What stands for the items of one list stands for those of another one, item by item alike. -/
theorem forall₂_congr_left {α β γ : Type} {relation : α → γ → Prop} {relation' : β → γ → Prop}
    {left : List α} {right : List β}
    (paired : List.Forall₂ (fun item item' => ∀ value, relation item value ↔ relation' item' value)
      left right) {values : List γ} :
    List.Forall₂ relation left values ↔ List.Forall₂ relation' right values := by
  -- The relations are compared at each item, so the pairings agree place by place.
  induction paired generalizing values with
  | nil => rw [List.forall₂_nil_left_iff, List.forall₂_nil_left_iff]
  | cons first _ ih => simp only [List.forall₂_cons_left_iff, first, ih]

/-- Items with images that stand for each other have lists of images that do. -/
theorem forall₂_filterMap_of_rel {α β γ : Type} {relation : β → γ → Prop} {image : α → Option β}
    {image' : α → Option γ} {items : List α}
    (each : ∀ item ∈ items, Option.Rel relation (image item) (image' item)) :
    List.Forall₂ relation (items.filterMap image) (items.filterMap image') := by
  -- The lists of images grow together, item by item.
  induction items with
  | nil => exact .nil
  | cons item rest ih =>
    have others := ih fun other listed => each other (List.mem_cons_of_mem _ listed)
    -- An item is passed over on both sides or on neither.
    rcases rel_cases (each item List.mem_cons_self) with
      ⟨none, none'⟩ | ⟨value, value', some, some', related⟩
    · rw [List.filterMap_cons_none none, List.filterMap_cons_none none']
      exact others
    · rw [List.filterMap_cons_some some, List.filterMap_cons_some some']
      exact .cons related others

/-- Where every item of a list has an image, the images stand in the order of the items. -/
theorem forall₂_filterMap {α β : Type} {image : α → Option β} {relation : β → α → Prop}
    {items : List α}
    (each : ∀ item ∈ items, ∃ value, image item = some value ∧ relation value item) :
    List.Forall₂ relation (items.filterMap image) items := by
  -- Each item is its own image on the other side, so no item is passed over there.
  have paired : List.Forall₂ relation (items.filterMap image) (items.filterMap some) := by
    refine forall₂_filterMap_of_rel fun item listed => ?_
    obtain ⟨value, found, related⟩ := each item listed
    rw [found]
    exact .some related
  rwa [List.filterMap_some] at paired

/-- Items that are combined with others of their own places. -/
theorem forall₂_zipWith {α β γ : Type} {related : α → γ → Prop} {combine : α → β → γ}
    {items : List α} {others : List β} (lengths : items.length = others.length)
    (each : ∀ (place : Nat) item other, items[place]? = some item → others[place]? = some other →
      related item (combine item other)) :
    List.Forall₂ related items (items.zipWith combine others) := by
  -- Both lists are taken apart together, and places behind the first count on by one.
  induction items generalizing others with
  | nil => exact .nil
  | cons item rest ih =>
    cases others with
    | nil => simp at lengths
    | cons other more =>
      refine .cons (each 0 item other rfl rfl) (ih (by simpa using lengths) ?_)
      exact fun place next following => each (place + 1) next following

/-- Steps that succeed together succeed one by one. -/
theorem exists_of_bind_eq_ok {ε α β : Type} {first : Except ε α} {next : α → Except ε β}
    {result : β} (succeeded : first >>= next = .ok result) :
    ∃ value, first = .ok value ∧ next value = .ok result := by
  -- A first step that fails makes the whole fail.
  cases first with
  | error fault => cases succeeded
  | ok value => exact ⟨value, rfl, succeeded⟩

/-- A sequence of steps runs the second on the state that the first leaves, unless the first
fails. -/
theorem run_bind {ε σ α β : Type} (step : ExceptT ε (StateM σ) α)
    (next : α → ExceptT ε (StateM σ) β) (state : σ) :
    (step >>= next).run.run state =
      match (step.run.run state).1 with
      | .ok value => (next value).run.run (step.run.run state).2
      | .error fault => (.error fault, (step.run.run state).2) := by
  rw [ExceptT.run_bind, StateT.run_bind]
  -- The second step runs only if there is a value to run it on.
  obtain ⟨answer, left⟩ := step.run.run state
  cases answer with
  | ok value => rfl
  | error fault => rfl

/-- A sequence of steps that succeeds does so step by step. -/
theorem exists_of_run_bind {ε σ α β : Type} {step : ExceptT ε (StateM σ) α}
    {next : α → ExceptT ε (StateM σ) β} {state : σ} {result : β}
    (succeeded : ((step >>= next).run.run state).1 = .ok result) :
    ∃ value, (step.run.run state).1 = .ok value ∧
      ((next value).run.run (step.run.run state).2).1 = .ok result := by
  -- The run goes on to the second step only from a value of the first.
  rw [run_bind] at succeeded
  cases first : (step.run.run state).1 with
  | error fault => simp [first] at succeeded
  | ok value => exact ⟨value, rfl, by simpa [first] using succeeded⟩

/-- What a result is mapped to comes from the result. -/
theorem map_eq_ok_iff {ε α β : Type} {answer : Except ε α} {image : α → β} {result : β} :
    answer.map image = .ok result ↔ ∃ value, answer = .ok value ∧ image value = result := by
  -- A fault is mapped to itself, and a value to its image.
  cases answer <;> simp [Except.map]

/-- A value does not depend on how faults are named. -/
theorem mapError_eq_ok_iff {ε ε' α : Type} {answer : Except ε α} {fault : ε → ε'} {value : α} :
    answer.mapError fault = .ok value ↔ answer = .ok value := by
  -- Renaming touches faults only.
  cases answer <;> simp [Except.mapError]

/-- A list is mapped without an error exactly if each of its items is, and in their order. -/
theorem mapM_eq_ok_iff {ε α β : Type} {step : α → Except ε β} {items : List α} {values : List β} :
    items.mapM step = .ok values ↔
      List.Forall₂ (fun item value => step item = .ok value) items values := by
  -- The run over a list is a step and the run over the rest, and so is a pairing.
  induction items generalizing values with
  | nil =>
    rw [List.mapM_nil, List.forall₂_nil_left_iff]
    exact ⟨fun same => (Except.ok.inj same).symm, fun same => same ▸ rfl⟩
  | cons item rest ih =>
    rw [List.mapM_cons, List.forall₂_cons_left_iff]
    -- The first item is mapped before the others, and its error would end the run.
    cases first : step item with
    | error fault => simp [bind, Except.bind]
    | ok value =>
      cases others : rest.mapM step with
      | error fault => simp [bind, Except.bind, others, ← ih]
      | ok values' =>
        simp only [bind, Except.bind, others, pure, Except.pure, Except.ok.injEq, ← ih]
        constructor
        · -- A result of both parts is made of theirs, and it comes apart in one way.
          rintro rfl
          exact ⟨value, values', rfl, rfl, rfl⟩
        · rintro ⟨_, _, rfl, rfl, rfl⟩
          rfl

/-- Runs over one list with steps that do the same for its items end alike. -/
theorem mapM_congr {ε α β : Type} {step step' : α → Except ε β} {items : List α}
    (alike : ∀ item ∈ items, step item = step' item) : items.mapM step = items.mapM step' := by
  -- The runs agree at the first item and then by induction.
  induction items with
  | nil => rfl
  | cons item rest ih =>
    obtain ⟨first, others⟩ := List.forall_mem_cons.mp alike
    rw [List.mapM_cons, List.mapM_cons, first, ih others]

/-- A run over a list ends with the error of the first step that fails. -/
theorem mapM_eq_error_of_first {ε α β : Type} {step : α → Except ε β} {earlier later : List α}
    {item : α} {fault : ε} (before : ∀ other ∈ earlier, ∃ value, step other = .ok value)
    (failed : step item = .error fault) :
    (earlier ++ item :: later).mapM step = .error fault := by
  -- The steps ahead have values, so the run arrives at the one that fails.
  induction earlier with
  | nil => simp [failed, bind, Except.bind]
  | cons other rest ih =>
    obtain ⟨⟨value, succeeded⟩, others⟩ := List.forall_mem_cons.mp before
    rw [List.cons_append, List.mapM_cons, succeeded, ih others]
    rfl

end RemoteRecords
