import Mathlib.Data.List.Nodup
import RemoteRecords.Dict

/-! Tables: storing entries keeps them in key order, and in key order the entries tell tables
apart. -/

namespace RemoteRecords.Dict

variable {α : Type u} {table other : Dict α} {key : String} {value : α}

/-- Under a key stands the last of the entries that were stored there, or else what was there
before. -/
theorem get?_insertAll (entries : List (String × α)) (table : Dict α) (key : String) :
    (table.insertAll entries).get? key =
      entries.foldl (fun held entry => if entry.1 = key then some entry.2 else held)
        (table.get? key) := by
  -- Entries are stored one after another, and storing decides about one key as the fold does.
  induction entries generalizing table with
  | nil => rfl
  | cons first rest ih =>
    rw [List.foldl_cons, ← get?_insert]
    exact ih _

/-- What a table holds after a value was stored is the value or was there before. -/
theorem mem_insert {entry : String × α} (listed : entry ∈ table.insert key value) :
    entry = (key, value) ∨ entry ∈ table := by
  -- The walk to the place of the new key keeps all that it passes and all that stands behind.
  induction table with
  | nil => exact .inl (List.mem_singleton.mp listed)
  | cons first rest ih =>
    obtain ⟨name, held⟩ := first
    simp only [insert] at listed
    split at listed
    · -- The walk goes on behind a smaller key.
      rcases List.mem_cons.mp listed with rfl | later
      · exact .inr List.mem_cons_self
      · exact (ih later).imp_right (List.mem_cons_of_mem _)
    · split at listed
      · -- The new entry takes the place of the old one of its key, or comes ahead of all.
        exact (List.mem_cons.mp listed).imp_right (List.mem_cons_of_mem _)
      · exact List.mem_cons.mp listed

/-- What a table holds after entries were stored is one of them or was there before. -/
theorem mem_insertAll {entries : List (String × α)} {entry : String × α}
    (listed : entry ∈ table.insertAll entries) : entry ∈ entries ∨ entry ∈ table := by
  -- With the first entry stored, the others are stored in a table that holds it.
  induction entries generalizing table with
  | nil => exact .inr listed
  | cons first rest ih =>
    rcases ih listed with later | stored
    · exact .inl (List.mem_cons_of_mem _ later)
    · rcases mem_insert stored with rfl | before
      · exact .inl List.mem_cons_self
      · exact .inr before

/-- A table of entries holds nothing else. -/
theorem mem_ofEntries {entries : List (String × α)} {entry : String × α}
    (listed : entry ∈ ofEntries entries) : entry ∈ entries :=
  -- The entries are stored in a table that holds nothing.
  (mem_insertAll listed).resolve_right List.not_mem_nil

/-- A value that is stored under a new key is one entry more. -/
theorem insert_perm (fresh : key ∉ table.keys) (value : α) :
    (table.insert key value).Perm ((key, value) :: table) := by
  -- A new key never meets an entry to replace, so the walk only decides where the entry goes.
  induction table with
  | nil => exact .refl _
  | cons first rest ih =>
    obtain ⟨name, held⟩ := first
    simp only [keys, List.map_cons, List.mem_cons, not_or] at fresh
    simp only [insert]
    split
    · -- The new entry moves ahead of those that it was stored behind.
      exact ((ih fresh.2).cons _).trans (.swap _ _ _)
    · -- The keys differ, so the entry comes ahead of what is left.
      rw [if_neg fun same => fresh.1 same.symm]

/-- Entries that are stored under new keys, all different, are that many entries more. -/
theorem insertAll_perm {entries : List (String × α)}
    (once : (table.keys ++ entries.map Prod.fst).Nodup) :
    (table.insertAll entries).Perm (table ++ entries) := by
  -- Storing the first entry keeps the keys different, which is what the others need.
  induction entries generalizing table with
  | nil => simp [insertAll]
  | cons first rest ih =>
    obtain ⟨key, value⟩ := first
    obtain ⟨fresh, others⟩ := List.nodup_cons.mp (List.nodup_middle.mp once)
    have stored := insert_perm (fun held => fresh (List.mem_append_left _ held)) value
    -- With the first entry stored, the keys of the table are one more.
    have shifted : ((table.insert key value).keys ++ rest.map Prod.fst).Nodup :=
      (((stored.map Prod.fst).append_right _).nodup_iff).mpr (List.nodup_cons.mpr ⟨fresh, others⟩)
    exact (ih shifted).trans ((stored.append_right rest).trans List.perm_middle.symm)

/-- Storing a value keeps a table in key order. -/
theorem Sorted.insert (sorted : table.Sorted) (key : String) (value : α) :
    (table.insert key value).Sorted := by
  -- The new entry goes in behind all smaller keys and ahead of all greater ones.
  induction table with
  | nil => exact List.pairwise_singleton _ _
  | cons first rest ih =>
    obtain ⟨name, held⟩ := first
    obtain ⟨ahead, behind⟩ := List.pairwise_cons.mp sorted
    simp only [Dict.insert]
    split
    · -- What stands behind a smaller key was behind it before or is the new entry.
      rename_i smaller
      refine List.pairwise_cons.mpr ⟨fun entry listed => ?_, ih behind⟩
      rcases mem_insert listed with rfl | before
      · exact smaller
      · exact ahead entry before
    · split
      · -- The entry that is replaced has the same neighbours.
        rename_i same
        exact List.pairwise_cons.mpr ⟨same ▸ ahead, behind⟩
      · -- A key that is greater than the new one is smaller than all behind it.
        rename_i notSmaller differs
        have greater : key < name :=
          Std.lt_of_le_of_ne (String.not_lt.mp notSmaller) (Ne.symm differs)
        refine List.pairwise_cons.mpr ⟨fun entry listed => ?_, sorted⟩
        rcases List.mem_cons.mp listed with rfl | later
        · exact greater
        · exact String.lt_trans greater (ahead entry later)

/-- Storing entries one after another keeps a table in key order. -/
theorem Sorted.insertAll (sorted : table.Sorted) (entries : List (String × α)) :
    (table.insertAll entries).Sorted := by
  -- Every single entry keeps the order.
  induction entries generalizing table with
  | nil => exact sorted
  | cons first rest ih => exact ih (sorted.insert first.1 first.2)

/-- In key order every entry is found under its key. -/
theorem Sorted.get?_of_mem (sorted : table.Sorted) (listed : (key, value) ∈ table) :
    table.get? key = some value := by
  -- The look-up passes the entries with smaller keys and stops at the first of its own key.
  induction table with
  | nil => cases listed
  | cons first rest ih =>
    obtain ⟨ahead, behind⟩ := List.pairwise_cons.mp sorted
    rcases List.mem_cons.mp listed with rfl | later
    · rw [get?_cons, if_pos rfl]
    · -- The first key is smaller than that of the entry.
      have smaller : first.1 < key := ahead (key, value) later
      have differs : first.1 ≠ key := fun same => String.lt_irrefl key (same ▸ smaller)
      rw [get?_cons, if_neg differs, ih behind later]

/-- In key order no key stands twice. -/
theorem Sorted.get?_tail {rest : Dict α} (sorted : Sorted ((key, value) :: rest)) :
    rest.get? key = none := by
  -- What stands behind an entry has a greater key.
  obtain ⟨ahead, -⟩ := List.pairwise_cons.mp sorted
  cases found : rest.get? key with
  | none => rfl
  | some other => exact absurd (ahead _ (mem_of_get? found)) (String.lt_irrefl key)

/-- Tables in key order with the same entries are the same. -/
theorem Sorted.eq_of_perm (sorted : table.Sorted) (sorted' : other.Sorted)
    (same : table.Perm other) : table = other :=
  -- A list in strict order is the only arrangement of its items in that order.
  same.eq_of_pairwise (fun _ _ _ _ smaller greater => absurd greater (String.lt_asymm smaller))
    sorted sorted'

/-- Tables in key order that hold the same under every key are the same. -/
theorem Sorted.ext (sorted : table.Sorted) (sorted' : other.Sorted)
    (same : ∀ key, table.get? key = other.get? key) : table = other := by
  -- Two tables without repeats hold the same entries if each entry of one is in the other.
  have once {table : Dict α} (sorted : table.Sorted) : table.Nodup := by
    refine List.Pairwise.imp ?_ sorted
    rintro entry _ smaller rfl
    exact String.lt_irrefl entry.1 smaller
  refine sorted.eq_of_perm sorted'
    ((List.perm_ext_iff_of_nodup (once sorted) (once sorted')).mpr ?_)
  rintro ⟨key, value⟩
  -- An entry is what is found under its key.
  constructor
  · exact fun listed => mem_of_get? ((same key).symm.trans (sorted.get?_of_mem listed))
  · exact fun listed => mem_of_get? ((same key).trans (sorted'.get?_of_mem listed))

/-- Removing a key keeps a table in key order. -/
theorem Sorted.erase (sorted : table.Sorted) (key : String) : (table.erase key).Sorted :=
  -- Dropping entries leaves the order of the others.
  List.Pairwise.filter _ sorted

/-- Removing a key that a table does not hold leaves it as it is. -/
theorem Sorted.erase_of_missing (sorted : table.Sorted) (missing : table.get? key = none) :
    table.erase key = table := by
  -- Under the removed key nothing was found before either, and all other keys find what they found.
  refine (sorted.erase key).ext sorted fun other => ?_
  rw [get?_erase]
  split
  · rename_i same
    exact (same ▸ missing).symm
  · rfl

/-- An entry of another key makes no difference to what is found. -/
theorem get?_insertAll_drop (entry : String × α) (apart : entry.1 ≠ key)
    (ahead behind : List (String × α)) (table : Dict α) :
    (table.insertAll (ahead ++ entry :: behind)).get? key =
      (table.insertAll (ahead ++ behind)).get? key := by
  -- The fold that decides about a key passes over entries of other keys.
  simp only [get?_insertAll, List.foldl_append, List.foldl_cons, if_neg apart]

end RemoteRecords.Dict
