import RemoteRecords.Dict
import RemoteRecords.Schema.Basic

/-! Catalogs: the schemas of all record types at one moment. -/

namespace RemoteRecords

/-- The schemas that are on record, by type name. -/
structure Catalog where
  schemas : Dict RecordSchema := []
deriving Inhabited

namespace Catalog

/-- The schema of a type that is not on record: a plain value without a name. -/
def absent : RecordSchema :=
  { name := "", mapped := false }

/-- The schema of a type. -/
def schema (catalog : Catalog) (typeName : String) : RecordSchema :=
  (catalog.schemas.get? typeName).getD absent

/-- Puts a schema on record, in place of the one that was there. -/
def define (catalog : Catalog) (typeName : String) (schema : RecordSchema) : Catalog :=
  ⟨catalog.schemas.insert typeName schema⟩

/-- A mapped schema belongs to a type on record. -/
theorem mem_keys_of_mapped {catalog : Catalog} {typeName : String}
    (mapped : (catalog.schema typeName).mapped = true) : typeName ∈ catalog.schemas.keys := by
  -- A type that is not on record has a schema that is not mapped.
  unfold schema at mapped
  cases found : catalog.schemas.get? typeName with
  | none => simp [found, absent] at mapped
  | some schema => exact List.mem_map_of_mem (f := Prod.fst) (Dict.mem_of_get? found)

end Catalog

end RemoteRecords
