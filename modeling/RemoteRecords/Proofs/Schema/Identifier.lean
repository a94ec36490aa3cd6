import RemoteRecords.Proofs.Schema.Validation

/-! Identifiers: the names of an accepted schema and of its fields. -/

namespace RemoteRecords

/-- A name of ASCII letters, digits and underscores that does not begin with a digit. -/
structure Identifier (name : String) : Prop where
  filled : name ≠ ""
  start : ∀ c, name.toList.head? = some c → c.isDigit = false
  letters : ∀ c ∈ name.toList, NameFault.isNameChar c = true

/-- A name without a fault is an identifier. -/
theorem identifier_of_faultless {name : String} (faultless : NameFault.of? name = none) :
    Identifier name := by
  -- Each fault that is ruled out is one condition.
  unfold NameFault.of? at faultless
  split at faultless
  · cases faultless
  rename_i filled
  split at faultless
  · cases faultless
  split at faultless
  · cases faultless
  rename_i start
  split at faultless
  · cases faultless
  rename_i letters
  refine ⟨fun empty => filled (String.isEmpty_iff.mpr empty), fun c first => ?_, ?_⟩
  · simpa [first] using start
  · simpa using letters

/-- A character that no name may have stands in no identifier. -/
theorem Identifier.not_mem {name : String} (identifier : Identifier name) {c : Char}
    (foreign : NameFault.isNameChar c = false) : c ∉ name.toList := by
  -- All characters of an identifier are such that a name may have them.
  intro inside
  rw [identifier.letters c inside] at foreign
  cases foreign

/-- The name of an accepted schema is an identifier. -/
theorem RecordSchema.identifier_of_validate {schema : RecordSchema}
    (valid : schema.validate = .ok ()) : Identifier schema.name := by
  have none := ownFaults_eq_nil_of_validate valid
  -- The fault of the schema's name would be the first of its own.
  simp only [ownFaults, List.append_eq_nil_iff, List.map_eq_nil_iff, Option.toList_eq_nil_iff]
    at none
  exact identifier_of_faultless none.1.1.1

/-- The name of a field of an accepted schema is an identifier. -/
theorem FieldSchema.identifier_of_faults {field : FieldSchema} (faultless : field.faults = []) :
    Identifier field.name := by
  -- The faults of the name are among those of the field.
  simp only [faults, nameFaults, List.append_eq_nil_iff, List.map_eq_nil_iff,
    Option.toList_eq_nil_iff] at faultless
  exact identifier_of_faultless faultless.1.1

end RemoteRecords
