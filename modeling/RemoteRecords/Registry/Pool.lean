import RemoteRecords.Config.Mapping

/-! Pools: one registry for each set of mapping options, shared by all who ask for it. -/

namespace RemoteRecords

/-- The mapping options of the registries in use; the place of the options names the registry. -/
structure Pool where
  configs : List MappingConfig := []
deriving DecidableEq, Repr, Inhabited

namespace Pool

/-- The registry for mapping options, which is new if no one asked for it before. -/
def acquire (pool : Pool) (config : MappingConfig) : Nat × Pool :=
  -- Equal options name the same registry, however they came about.
  match pool.configs.findIdx? (· == config) with
  | some place => (place, pool)
  | none => (pool.configs.length, ⟨pool.configs ++ [config]⟩)

end Pool

end RemoteRecords
