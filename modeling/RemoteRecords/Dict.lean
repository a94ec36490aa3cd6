/-! Tables with text keys, kept in the order of their keys so that equal tables are equal lists. -/

namespace RemoteRecords

/-- A table from text keys to values, as its entries in strictly increasing key order. -/
abbrev Dict (α : Type u) := List (String × α)

namespace Dict

variable {α : Type u}

/-- The value stored under a key. -/
def get? : Dict α → String → Option α
  | [], _ => none
  | (name, value) :: rest, key => if name = key then some value else get? rest key

/-- Stores a value under a key, in place of the one that was there. -/
def insert : Dict α → String → α → Dict α
  | [], key, value => [(key, value)]
  | (name, held) :: rest, key, value =>
    -- Smaller keys stay in front, an equal key gives way, and everything greater moves behind.
    if name < key then (name, held) :: insert rest key value
    else if name = key then (key, value) :: rest
    else (key, value) :: (name, held) :: rest

/-- Removes every entry of a key. -/
def erase (table : Dict α) (key : String) : Dict α :=
  table.filter fun entry => entry.1 ≠ key

/-- The keys, in order. -/
def keys (table : Dict α) : List String :=
  table.map Prod.fst

/-- Stores entries one after another, so the last entry of a key stands. -/
def insertAll (table : Dict α) (entries : List (String × α)) : Dict α :=
  entries.foldl (fun held entry => held.insert entry.1 entry.2) table

/-- The table of a list of entries; the last entry of a key stands. -/
def ofEntries (entries : List (String × α)) : Dict α :=
  insertAll [] entries

/-- Entries stand in strictly increasing key order. -/
def Sorted (table : Dict α) : Prop :=
  table.Pairwise fun left right => left.1 < right.1

@[simp] theorem get?_nil (key : String) : get? ([] : Dict α) key = none := rfl

theorem get?_cons (name : String) (value : α) (rest : Dict α) (key : String) :
    get? ((name, value) :: rest) key = if name = key then some value else get? rest key := rfl

/-- A stored value is found under its own key and leaves the other keys alone. -/
theorem get?_insert (table : Dict α) (key : String) (value : α) (other : String) :
    (table.insert key value).get? other = if key = other then some value else table.get? other := by
  -- The walk skips only smaller keys, so it meets the key itself or the place where it belongs.
  induction table with
  | nil => rfl
  | cons entry rest ih =>
    obtain ⟨name, held⟩ := entry
    by_cases before : name < key
    · have apart : name ≠ key := fun same => String.lt_irrefl key (same ▸ before)
      simp only [insert, before, if_true, get?_cons, ih]
      -- The skipped entry has another key than the stored one.
      by_cases here : name = other
      · simp [here, show key ≠ other from fun same => apart (here.trans same.symm)]
      · simp [here]
    · by_cases same : name = key
      · subst same
        simp only [insert, before, if_false, if_true, get?_cons]
        split <;> rfl
      · simp [insert, before, same, get?_cons]

/-- An erased key is absent and the other keys keep their values. -/
theorem get?_erase (table : Dict α) (key other : String) :
    (table.erase key).get? other = if key = other then none else table.get? other := by
  -- The filter drops entries of the key alone, so every other lookup ends at the same entry.
  induction table with
  | nil => simp [erase]
  | cons entry rest ih =>
    obtain ⟨name, held⟩ := entry
    unfold erase at ih ⊢
    by_cases here : name = key
    · subst here
      rw [List.filter_cons_of_neg (by simp), ih, get?_cons]
      split <;> rfl
    · rw [List.filter_cons_of_pos (by simpa using here), get?_cons, ih, get?_cons]
      by_cases found : name = other
      · simp [found, show key ≠ other from fun same => here (found.trans same.symm)]
      · simp [found]

/-- A key with a value is one of the table's keys. -/
theorem mem_of_get? {table : Dict α} {key : String} {value : α}
    (found : table.get? key = some value) : (key, value) ∈ table := by
  -- A lookup answers with the first entry of the key, which stands in the table.
  induction table with
  | nil => simp at found
  | cons entry rest ih =>
    obtain ⟨name, held⟩ := entry
    rw [get?_cons] at found
    split at found
    · rename_i same
      cases found
      simp [same]
    · exact List.mem_cons_of_mem _ (ih found)

/-- Storing items under other keys leaves a key alone. -/
theorem get?_foldl_insert_of_ne {β : Type v} (key : β → String) (value : β → α) {name : String}
    {items : List β} (apart : ∀ item ∈ items, key item ≠ name) (table : Dict α) :
    Dict.get? (items.foldl (fun held item => held.insert (key item) (value item)) table) name =
      table.get? name := by
  -- Each item is stored under its own key, which is another one, so no step of the fold shows.
  induction items generalizing table with
  | nil => rfl
  | cons first rest ih =>
    rw [List.foldl_cons, ih (fun item listed => apart item (List.mem_cons_of_mem _ listed)),
      get?_insert, if_neg (apart first List.mem_cons_self)]

/-- A key under which items were stored holds the value on which they agree. -/
theorem get?_foldl_insert_of_mem {β : Type v} (key : β → String) (value : β → α) {name : String}
    {stored : α} {items : List β} (listed : ∃ item ∈ items, key item = name)
    (agree : ∀ item ∈ items, key item = name → value item = stored) (table : Dict α) :
    Dict.get? (items.foldl (fun held item => held.insert (key item) (value item)) table) name =
      some stored := by
  -- The last item of the key decides, and no item after it touches the key.
  induction items generalizing table with
  | nil => simp at listed
  | cons first rest ih =>
    rw [List.foldl_cons]
    by_cases later : ∃ item ∈ rest, key item = name
    · exact ih later (fun item held => agree item (List.mem_cons_of_mem _ held)) _
    · have apart : ∀ item ∈ rest, key item ≠ name := fun item held same => later ⟨item, held, same⟩
      obtain ⟨item, held, same⟩ := listed
      rcases List.mem_cons.mp held with rfl | behind
      · rw [get?_foldl_insert_of_ne key value apart, get?_insert, if_pos same,
          agree item List.mem_cons_self same]
      · exact absurd same (apart item behind)

end Dict

end RemoteRecords
