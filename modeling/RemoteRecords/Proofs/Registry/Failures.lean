import RemoteRecords.Proofs.Registry.Defects
import RemoteRecords.Proofs.Registry.DepthFirst

/-! Failures: a lookup fails exactly on a defect that its token reaches, and its error tells one. -/

namespace RemoteRecords

namespace Catalog

variable (catalog : Catalog) (kinds : String → TypeKind)

/-- A field of a type that gets a descriptor names another type. -/
def Names (owner other : String) : Prop :=
  catalog.Eligible kinds owner ∧
    ∃ field ∈ (catalog.schema owner).fields, ∃ token ∈ field.targets, token.typeName = other

/-- What a type needs is what its fields name, whether or not a descriptor is required. -/
theorem needs_eq_names : catalog.Needs kinds = catalog.Names kinds := by
  funext owner other
  -- Field by field, a demand is made of each token.
  have demanded : (∃ demand ∈ (catalog.schema owner).demands, demand.token.typeName = other) ↔
      ∃ token ∈ (catalog.schema owner).targets, token.typeName = other := by
    simp [← RecordSchema.map_token_demands]
  simp only [Needs, Names, demanded, RecordSchema.targets, List.mem_flatMap, eq_iff_iff]
  grind

end Catalog

namespace Registry

open Relation

variable {catalog : Catalog} {kinds : String → TypeKind} {calls : List Lookup}

/--
A lookup fails exactly if its token reaches a defect, from type to type through fields.

All lookups are made in one catalog that refers to each type as one of the type's kind.
What was looked up before, with success or not, makes no difference.
Every error reports one of the defects that are reached, and the type that has it.
-/
theorem lookup_fails_iff_reaches_defect (config : MappingConfig) (uniform : catalog.Uniform kinds)
    (steady : Steady catalog kinds calls) {token : TypeRef}
    (presented : token.kind = kinds token.typeName) :
    let answer := ((after config calls).descriptor catalog token).1
    let Reached := ReflTransGen (catalog.Names kinds) token.typeName
    ((∃ error, answer = .error error) ↔
      ∃ owner reason, Reached owner ∧ catalog.Defect kinds owner reason) ∧
    ∀ error, answer = .error error → ∃ owner reason, Reached owner ∧
      catalog.Defect kinds owner reason ∧
      error = .unmappableType (catalog.schema owner).name reason := by
  intro answer Reached
  have reaches_iff : ∀ owner, catalog.Reaches kinds token.typeName owner ↔ Reached owner := by
    intro owner
    rw [Catalog.Reaches, Catalog.needs_eq_names]
  -- A failure comes with its defect, and a success leaves none to be reached.
  rcases descriptor_outcome config uniform steady presented with
    ⟨owner, reason, reached, defect, failed⟩ | ⟨mappable, succeeded⟩
  · have reached' := (reaches_iff owner).mp reached
    refine ⟨iff_of_true ⟨_, failed⟩ ⟨owner, reason, reached', defect⟩, fun error same => ?_⟩
    obtain rfl := Except.error.inj (failed.symm.trans same)
    exact ⟨owner, reason, reached', defect, rfl⟩
  · -- The lookup succeeds, so the type is mappable, and no defect is reached.
    have answered : ∀ error, answer ≠ .error error := by
      intro error same
      rcases succeeded with ⟨plain, -⟩ | ⟨descriptor, -, found, -⟩
      · cases plain.symm.trans same
      · cases found.symm.trans same
    refine ⟨iff_of_false (fun ⟨error, same⟩ => answered error same) ?_,
      fun error same => absurd same (answered error)⟩
    rintro ⟨owner, reason, reached, defect⟩
    exact mappable owner ((reaches_iff owner).mpr reached)
      (Catalog.defective_iff_exists_defect.mpr ⟨reason, defect⟩)

/-- Orders have lines with a currency, which is a closed list of values, and notes have some. -/
def ledger : Catalog where
  schemas := [
    ("Order", { name := "Order", fields := [.collection "Lines" ⟨"Line", .mapped⟩] }),
    ("Line", { name := "Line", fields := [.reference "Currency" ⟨"Currency", .enumeration⟩] }),
    ("Note", {
      name := "Note"
      fields := [.collection "Currencies" ⟨"Currency", .enumeration⟩] })]

/-- Every type of the ledger is referred to as one kind of type. -/
def ledgerKinds (typeName : String) : TypeKind :=
  if typeName = "Currency" then .enumeration else .mapped

/-- Orders fail for the sake of their lines, also after a lookup of notes. -/
theorem lookup_fails_iff_reaches_defect_ledger :
    ∃ error, ((after {} [⟨ledger, ⟨"Note", .mapped⟩⟩]).descriptor ledger
      ⟨"Order", .mapped⟩).1 = .error error := by
  -- Currencies are a closed list of values throughout, so the catalog is uniform.
  have uniform : ledger.Uniform ledgerKinds := Catalog.uniform_of_forall (by decide)
  have steady : Steady ledger ledgerKinds [⟨ledger, ⟨"Note", .mapped⟩⟩] := by
    intro call listed
    rw [List.mem_singleton.mp listed]
    exact ⟨rfl, rfl⟩
  -- The lines are reached through a collection, and their own field requires a descriptor.
  have lines : ledger.Names ledgerKinds "Order" "Line" :=
    ⟨⟨rfl, rfl⟩, _, List.mem_singleton_self _, _, List.mem_singleton_self _, rfl⟩
  have defect : ledger.Defect ledgerKinds "Line" (.badTarget "Currency" "Currency") :=
    @Catalog.Defect.badTarget ledger ledgerKinds "Line"
      (.reference "Currency" ⟨"Currency", .enumeration⟩) ⟨"Currency", .enumeration⟩ ⟨rfl, rfl⟩
      (List.mem_singleton_self _) .reference (fun eligible => by cases eligible.1)
  exact (lookup_fails_iff_reaches_defect {} uniform steady rfl).1.mpr
    ⟨"Line", _, .single lines, defect⟩

end Registry

end RemoteRecords
