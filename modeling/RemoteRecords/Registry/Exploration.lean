import RemoteRecords.Error
import RemoteRecords.Registry.Basic
import RemoteRecords.Schema.Catalog
import RemoteRecords.Schema.Validation

/-! Exploration: the types that a type needs, met in depth-first order, and the first obstacle. -/

namespace RemoteRecords

/-- A type to be met. A relationship cannot do without a descriptor of its target. -/
structure Demand where
  token : TypeRef
  /-- The record name and the field that require a descriptor. -/
  requiredBy : Option (String × String) := none
deriving DecidableEq, Repr

/-- The error for a demand whose type has no descriptor, if it requires one. -/
def Demand.refusal? (demand : Demand) : Option Error :=
  demand.requiredBy.map fun (owner, field) =>
    .unmappableType owner (.badTarget field demand.token.typeName)

/-- The demands of a field: all but collections require descriptors. -/
def FieldSchema.demands (owner : String) (field : FieldSchema) : List Demand :=
  match field.shape with
  | .collection element => [⟨element, none⟩]
  | _ => field.targets.map fun token => ⟨token, some (owner, field.name)⟩

/-- The demands of a schema, field by field. -/
def RecordSchema.demands (schema : RecordSchema) : List Demand :=
  schema.fields.flatMap (·.demands schema.name)

/-- What an exploration has met so far. -/
structure Exploration where
  /-- The types to be described, in the order of their first visit. -/
  found : List (TypeRef × RecordSchema) := []
  /-- The types without descriptors. -/
  ineligible : List String := []
  /-- The types whose schema was asked for, in order. -/
  inspected : List String := []
deriving Repr

namespace Exploration

/-- The names of the types to be described. -/
def foundNames (seen : Exploration) : List String :=
  seen.found.map fun entry => entry.1.typeName

/-- Whether a type has a descriptor, as far as registry and exploration know. -/
def verdict? (known : Dict Slot) (seen : Exploration) (typeName : String) : Option Bool :=
  match known.get? typeName with
  | some (.mapped _) => some true
  | some .ineligible => some false
  | none =>
    -- What the registry has settled stays settled, so the exploration is asked second.
    if typeName ∈ seen.foundNames then some true
    else if typeName ∈ seen.ineligible then some false
    else none

/-- Meets a type for the first time: its schema, if it is eligible, and what is remembered. Only the
schema of a reference that presents its type as mapped is asked for. -/
def inspect (catalog : Catalog) (token : TypeRef) (seen : Exploration) :
    Option RecordSchema × Exploration :=
  let refused (seen : Exploration) : Option RecordSchema × Exploration :=
    (none, { seen with ineligible := seen.ineligible ++ [token.typeName] })
  -- A reference to a plain value settles the question without a schema.
  if token.kind = .mapped then
    let schema := catalog.schema token.typeName
    let asked := { seen with inspected := seen.inspected ++ [token.typeName] }
    if schema.mapped then (some schema, asked) else refused asked
  else refused seen

/-- Adds a type to be described. -/
def describe (seen : Exploration) (token : TypeRef) (schema : RecordSchema) : Exploration :=
  { seen with found := seen.found ++ [(token, schema)] }

/-- The number of types on record that are not yet to be described. -/
def remaining (catalog : Catalog) (seen : Exploration) : Nat :=
  catalog.schemas.keys.countP fun typeName => typeName ∉ seen.foundNames

/-- Inspection leaves the types to be described alone. -/
@[simp] theorem inspect_found (catalog : Catalog) (token : TypeRef) (seen : Exploration) :
    (seen.inspect catalog token).2.found = seen.found := by
  -- Only the two records of what was met and asked can change.
  unfold inspect
  split
  · simp only
    split <;> rfl
  · rfl

/-- A schema that inspection returns is mapped and on record. -/
theorem mem_keys_of_inspect {catalog : Catalog} {token : TypeRef} {seen : Exploration}
    {schema : RecordSchema} (eligible : (seen.inspect catalog token).1 = some schema) :
    token.typeName ∈ catalog.schemas.keys := by
  -- Every other branch returns no schema.
  unfold inspect at eligible
  split at eligible
  · simp only at eligible
    split at eligible
    · rename_i mapped
      exact Catalog.mem_keys_of_mapped mapped
    · contradiction
  · contradiction

/-- A type without a verdict is not yet to be described. -/
theorem not_mem_of_verdict?_none {known : Dict Slot} {seen : Exploration} {typeName : String}
    (unmet : verdict? known seen typeName = none) : typeName ∉ seen.foundNames := by
  -- A type to be described has a verdict, whatever the registry knows.
  unfold verdict? at unmet
  split at unmet
  · contradiction
  · contradiction
  · split at unmet
    · contradiction
    · assumption

/-- A name that stands in a list and is newly excluded makes the list's rest shorter. -/
theorem countP_not_mem_append_lt {names held : List String} {name : String}
    (listed : name ∈ names) (unmet : name ∉ held) :
    names.countP (fun other => decide (other ∉ held ++ [name])) <
      names.countP (fun other => decide (other ∉ held)) := by
  induction names with
  | nil => simp at listed
  | cons first rest ih =>
    -- Whatever is outside the longer list is outside the shorter one.
    have tail := List.countP_mono_left (l := rest) (p := fun other => decide (other ∉ held ++ [name]))
      (q := fun other => decide (other ∉ held)) (by
        intro other _ outside
        simp only [decide_eq_true_eq, List.mem_append, not_or] at outside ⊢
        exact outside.1)
    by_cases same : first = name
    · subst same
      rw [List.countP_cons_of_neg (by simp), List.countP_cons_of_pos (by simpa using unmet)]
      omega
    · have later : name ∈ rest := (List.mem_cons.mp listed).resolve_left fun eq => same eq.symm
      have smaller := ih later
      by_cases inside : first ∈ held
      · rw [List.countP_cons_of_neg (by simp [inside]), List.countP_cons_of_neg (by simp [inside])]
        exact smaller
      · rw [List.countP_cons_of_pos (by simp [inside, same]),
          List.countP_cons_of_pos (by simp [inside])]
        omega

/-- Each type to be described leaves one fewer. -/
theorem remaining_describe_lt {catalog : Catalog} {token : TypeRef} {schema : RecordSchema}
    {seen : Exploration} (listed : token.typeName ∈ catalog.schemas.keys)
    (unmet : token.typeName ∉ seen.foundNames) :
    remaining catalog (seen.describe token schema) < remaining catalog seen := by
  -- The new type is the only new name among those to be described.
  have grown : (seen.describe token schema).foundNames = seen.foundNames ++ [token.typeName] := by
    simp [describe, foundNames]
  simp only [remaining, grown]
  exact countP_not_mem_append_lt listed unmet

/-- Inspection leaves the number of types still to be described alone. -/
theorem remaining_inspect {catalog : Catalog} {token : TypeRef} {seen seen' : Exploration}
    {schema : Option RecordSchema} (inspected : seen.inspect catalog token = (schema, seen')) :
    seen'.foundNames = seen.foundNames ∧ remaining catalog seen' = remaining catalog seen := by
  -- The measure looks at nothing but the types to be described.
  have kept : seen'.found = seen.found := by
    rw [← inspect_found catalog token seen, inspected]
  have names : seen'.foundNames = seen.foundNames := by simp only [foundNames, kept]
  exact ⟨names, by simp only [remaining, names]⟩

/-- Meets the demanded types one after another, and after each type to be described the types of its
fields before all others. Stops at the first obstacle. -/
def explore (known : Dict Slot) (catalog : Catalog) (seen : Exploration) :
    List Demand → Exploration × Option Error
  | [] => (seen, none)
  | demand :: rest =>
    match _met : verdict? known seen demand.token.typeName with
    -- A type that is met again is not explored again, which is what ends cycles.
    | some true => explore known catalog seen rest
    | some false =>
      -- Without a descriptor, a relationship fails and a collection becomes a plain value.
      match demand.refusal? with
      | some error => (seen, some error)
      | none => explore known catalog seen rest
    | none =>
      match _inspected : seen.inspect catalog demand.token with
      | (none, seen') =>
        match demand.refusal? with
        | some error => (seen', some error)
        | none => explore known catalog seen' rest
      | (some schema, seen') =>
        match schema.validate with
        | .error findings => (seen', some (.unmappableType schema.name (.invalid findings)))
        | .ok () =>
          -- The type counts as found before its own fields are met, so it may refer to itself.
          explore known catalog (seen'.describe demand.token schema) (schema.demands ++ rest)
termination_by demands => (remaining catalog seen, demands.length)
decreasing_by
  · exact Prod.Lex.right _ (by simp)
  · exact Prod.Lex.right _ (by simp)
  · rw [(remaining_inspect _inspected).2]
    exact Prod.Lex.right _ (by simp)
  · obtain ⟨names, same⟩ := remaining_inspect _inspected
    have eligible : (seen.inspect catalog demand.token).1 = some schema := by rw [_inspected]
    have listed := mem_keys_of_inspect eligible
    have unmet : demand.token.typeName ∉ seen'.foundNames := by
      rw [names]
      exact not_mem_of_verdict?_none _met
    exact Prod.Lex.left _ _ (same ▸ remaining_describe_lt listed unmet)

end Exploration

end RemoteRecords
