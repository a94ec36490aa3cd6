import Mathlib.Logic.Relation
import RemoteRecords.Registry.Exploration

/-! Exploration step by step: what each step keeps, and what is settled when no demand is left. -/

namespace RemoteRecords.Exploration

/-- An exploration under way: what it has met, and the demands that it has yet to meet. -/
structure Walk where
  seen : Exploration
  demands : List Demand

/-- An exploration meets its first demand and finds no obstacle. -/
inductive Step (known : Dict Slot) (catalog : Catalog) : Walk → Walk → Prop where
  /-- The type has a descriptor or is about to get one. -/
  | described {seen : Exploration} {demand : Demand} {rest : List Demand}
      (met : verdict? known seen demand.token.typeName = some true) :
      Step known catalog ⟨seen, demand :: rest⟩ ⟨seen, rest⟩
  /-- The type is known to have no descriptor, and none is required. -/
  | plain {seen : Exploration} {demand : Demand} {rest : List Demand}
      (met : verdict? known seen demand.token.typeName = some false)
      (optional : demand.refusal? = none) :
      Step known catalog ⟨seen, demand :: rest⟩ ⟨seen, rest⟩
  /-- The type turns out to have no descriptor, and none is required. -/
  | refused {seen after : Exploration} {demand : Demand} {rest : List Demand}
      (unmet : verdict? known seen demand.token.typeName = none)
      (inspected : seen.inspect catalog demand.token = (none, after))
      (optional : demand.refusal? = none) :
      Step known catalog ⟨seen, demand :: rest⟩ ⟨after, rest⟩
  /-- The type is to be described, and its own demands come first. -/
  | found {seen after : Exploration} {demand : Demand} {rest : List Demand} {schema : RecordSchema}
      (unmet : verdict? known seen demand.token.typeName = none)
      (inspected : seen.inspect catalog demand.token = (some schema, after))
      (valid : schema.validate = .ok ()) :
      Step known catalog ⟨seen, demand :: rest⟩
        ⟨after.describe demand.token schema, schema.demands ++ rest⟩

/-- An exploration without an obstacle is a run of steps that leaves no demand. -/
theorem steps_of_explore {known : Dict Slot} {catalog : Catalog} {seen final : Exploration}
    {demands : List Demand} (finished : explore known catalog seen demands = (final, none)) :
    Relation.ReflTransGen (Step known catalog) ⟨seen, demands⟩ ⟨final, []⟩ := by
  -- Each branch of the worker that goes on is one step, and the others end with an obstacle.
  fun_induction explore known catalog seen demands with
  | case1 seen =>
    -- No demand is left, so the run is empty.
    cases finished
    exact .refl
  | case2 seen demand rest met ih => exact .head (.described met) (ih finished)
  | case3 => cases finished
  | case4 seen demand rest met optional ih => exact .head (.plain met optional) (ih finished)
  | case5 => cases finished
  | case6 seen demand rest unmet after inspected optional ih =>
    exact .head (.refused unmet inspected optional) (ih finished)
  | case7 => cases finished
  | case8 seen demand rest unmet schema after inspected valid ih =>
    exact .head (.found unmet inspected valid) (ih finished)

/-- Inspection returns the schema on record, and only that of a type that is marked as mapped. -/
theorem inspect_eq_some {catalog : Catalog} {token : TypeRef} {seen after : Exploration}
    {schema : RecordSchema} (inspected : seen.inspect catalog token = (some schema, after)) :
    schema = catalog.schema token.typeName ∧ schema.mapped = true ∧ token.kind = .mapped ∧
      after.found = seen.found ∧ after.ineligible = seen.ineligible := by
  -- A schema comes out of one branch only.
  unfold inspect at inspected
  split at inspected
  · rename_i presented
    simp only at inspected
    split at inspected
    · rename_i marked
      cases inspected
      exact ⟨rfl, marked, presented, rfl, rfl⟩
    · cases inspected
  · cases inspected

/-- Inspection without a schema puts the type among those without descriptors. -/
theorem inspect_eq_none {catalog : Catalog} {token : TypeRef} {seen after : Exploration}
    (inspected : seen.inspect catalog token = (none, after)) :
    ¬ (token.kind = .mapped ∧ (catalog.schema token.typeName).mapped = true) ∧
      after.found = seen.found ∧ after.ineligible = seen.ineligible ++ [token.typeName] := by
  -- The two branches that refuse differ only in whether a schema was asked for.
  unfold inspect at inspected
  split at inspected
  · simp only at inspected
    split at inspected
    · cases inspected
    · rename_i unmarked
      cases inspected
      exact ⟨fun both => unmarked both.2, rfl, rfl⟩
  · rename_i plain
    cases inspected
    exact ⟨fun both => plain both.1, rfl, rfl⟩

/-- A type has a descriptor if the registry has one or the exploration is about to make one. -/
theorem verdict?_eq_true_iff {known : Dict Slot} {seen : Exploration} {typeName : String} :
    verdict? known seen typeName = some true ↔
      (∃ id, known.get? typeName = some (.mapped id)) ∨
        known.get? typeName = none ∧ typeName ∈ seen.foundNames := by
  -- The registry is asked first, then the two lists of the exploration.
  unfold verdict?
  split <;> grind

/-- A type has no descriptor if the registry or, failing that, the exploration has refused it. -/
theorem verdict?_eq_false_iff {known : Dict Slot} {seen : Exploration} {typeName : String} :
    verdict? known seen typeName = some false ↔
      known.get? typeName = some .ineligible ∨
        known.get? typeName = none ∧ typeName ∉ seen.foundNames ∧ typeName ∈ seen.ineligible := by
  -- A type that was found counts as described even if it were refused as well.
  unfold verdict?
  split <;> grind

/-- A type without a verdict is on no record. -/
theorem verdict?_eq_none_iff {known : Dict Slot} {seen : Exploration} {typeName : String} :
    verdict? known seen typeName = none ↔
      known.get? typeName = none ∧ typeName ∉ seen.foundNames ∧ typeName ∉ seen.ineligible := by
  -- Each of the three records would give a verdict.
  unfold verdict?
  split <;> grind

/-- A type to be described is the last one found. -/
@[simp] theorem foundNames_describe (seen : Exploration) (token : TypeRef) (schema : RecordSchema) :
    (seen.describe token schema).foundNames = seen.foundNames ++ [token.typeName] := by
  -- Its entry goes to the end of the list.
  simp [describe, foundNames]

/-- No step takes back a verdict. -/
theorem Step.keeps_verdict {known : Dict Slot} {catalog : Catalog} {before after : Walk}
    (step : Step known catalog before after) {typeName : String} {answer : Bool}
    (met : verdict? known before.seen typeName = some answer) :
    verdict? known after.seen typeName = some answer := by
  -- Steps only add types that had no verdict to one of the two lists.
  cases step with
  | described => exact met
  | plain => exact met
  | refused unmet inspected optional =>
    -- The refused list grows at its end, and the found list stays.
    obtain ⟨-, found, ineligible⟩ := inspect_eq_none inspected
    cases answer with
    | true =>
      rw [verdict?_eq_true_iff] at met ⊢
      simpa only [foundNames, found] using met
    | false =>
      rw [verdict?_eq_false_iff] at met ⊢
      rcases met with settled | ⟨unknown, unfound, held⟩
      · exact .inl settled
      · refine .inr ⟨unknown, ?_, ?_⟩
        · simpa only [foundNames, found] using unfound
        · rw [ineligible]
          exact List.mem_append_left _ held
  | @found seen after demand rest schema unmet inspected valid =>
    -- The found list grows at its end, and the refused list stays.
    obtain ⟨-, -, -, found, ineligible⟩ := inspect_eq_some inspected
    have names : after.foundNames = seen.foundNames := by simp only [foundNames, found]
    cases answer with
    | true =>
      rw [verdict?_eq_true_iff] at met ⊢
      rcases met with settled | ⟨unknown, here⟩
      · exact .inl settled
      · refine .inr ⟨unknown, ?_⟩
        rw [foundNames_describe, names]
        exact List.mem_append_left _ here
    | false =>
      rw [verdict?_eq_false_iff] at met ⊢
      rcases met with settled | ⟨unknown, unfound, held⟩
      · exact .inl settled
      · refine .inr ⟨unknown, fun here => ?_, ?_⟩
        · rw [foundNames_describe, names] at here
          rcases List.mem_append.mp here with earlier | newest
          · exact unfound earlier
          · -- The type that was just found had no verdict, and a refused one has.
            rw [List.mem_singleton] at newest
            exact (verdict?_eq_none_iff.mp unmet).2.2 (newest ▸ held)
        · rw [describe, ineligible]
          exact held

/-- A demand is answered once its type has a descriptor, or none and none is required. -/
def Answered (known : Dict Slot) (seen : Exploration) (demand : Demand) : Prop :=
  verdict? known seen demand.token.typeName = some true ∨
    verdict? known seen demand.token.typeName = some false ∧ demand.refusal? = none

/-- Before anything is met, a demand is answered by what the registry knows. -/
theorem answered_start_iff {known : Dict Slot} {demand : Demand} :
    Answered known {} demand ↔
      (∃ id, known.get? demand.token.typeName = some (.mapped id)) ∨
        known.get? demand.token.typeName = some .ineligible ∧ demand.refusal? = none := by
  -- Both lists of an exploration are empty at first.
  simp [Answered, verdict?_eq_true_iff, verdict?_eq_false_iff, foundNames]

/-- A step answers the demand that it takes and leaves the others waiting or answered. -/
theorem Step.answers {known : Dict Slot} {catalog : Catalog} {before after : Walk}
    (step : Step known catalog before after) {demand : Demand}
    (pending : demand ∈ before.demands ∨ Answered known before.seen demand) :
    demand ∈ after.demands ∨ Answered known after.seen demand := by
  -- The demand is the one that the step takes, another one that waits, or answered already.
  have keeps : ∀ {answer}, verdict? known before.seen demand.token.typeName = some answer →
      verdict? known after.seen demand.token.typeName = some answer := step.keeps_verdict
  rcases pending with waiting | answered
  · -- The first demand is answered by what the step finds out about its type.
    cases step with
    | described met =>
      rcases List.mem_cons.mp waiting with rfl | later
      · exact .inr (.inl met)
      · exact .inl later
    | plain met optional =>
      rcases List.mem_cons.mp waiting with rfl | later
      · exact .inr (.inr ⟨met, optional⟩)
      · exact .inl later
    | refused unmet inspected optional =>
      rcases List.mem_cons.mp waiting with rfl | later
      · -- The type joins the refused ones, and its demand puts up with that.
        obtain ⟨unknown, unfound, -⟩ := verdict?_eq_none_iff.mp unmet
        obtain ⟨-, found, ineligible⟩ := inspect_eq_none inspected
        refine .inr (.inr ⟨verdict?_eq_false_iff.mpr (.inr ⟨unknown, ?_, ?_⟩), optional⟩)
        · simpa only [foundNames, found] using unfound
        · simp [ineligible]
      · exact .inl later
    | found unmet inspected valid =>
      rcases List.mem_cons.mp waiting with rfl | later
      · -- The type joins the found ones, whose descriptors are to come.
        refine .inr (.inl (verdict?_eq_true_iff.mpr (.inr ⟨?_, ?_⟩)))
        · exact (verdict?_eq_none_iff.mp unmet).1
        · simp
      · exact .inl (List.mem_append_right _ later)
  · -- An answer that was found stands.
    rcases answered with met | ⟨met, optional⟩
    · exact .inr (.inl (keeps met))
    · exact .inr (.inr ⟨keeps met, optional⟩)

/-- What an exploration of one catalog has met fits together and with what the registry knows. -/
structure Coherent (known : Dict Slot) (catalog : Catalog) (walk : Walk) : Prop where
  /-- No type is found twice. -/
  once : walk.seen.foundNames.Nodup
  /-- Only types that the registry does not know are found. -/
  fresh : ∀ typeName ∈ walk.seen.foundNames, known.get? typeName = none
  /-- Only types that neither the registry nor the exploration describes are refused. -/
  refused : ∀ typeName ∈ walk.seen.ineligible,
    known.get? typeName = none ∧ typeName ∉ walk.seen.foundNames
  /-- A found type comes with its schema on record, which is valid and marked as mapped. -/
  declared : ∀ entry ∈ walk.seen.found, entry.2 = catalog.schema entry.1.typeName ∧
    entry.2.mapped = true ∧ entry.2.validate = .ok ()
  /-- What the fields of a found type demand is answered or waits for its turn. -/
  closed : ∀ entry ∈ walk.seen.found, ∀ demand ∈ entry.2.demands,
    demand ∈ walk.demands ∨ Answered known walk.seen demand

/-- Before the first step nothing has been met. -/
theorem coherent_start (known : Dict Slot) (catalog : Catalog) (demands : List Demand) :
    Coherent known catalog ⟨{}, demands⟩ := by
  -- Every condition is about members of lists that are still empty.
  constructor <;> simp [foundNames]

/-- Every step leaves the exploration coherent. -/
theorem Step.coherent {known : Dict Slot} {catalog : Catalog} {before after : Walk}
    (step : Step known catalog before after) (coherent : Coherent known catalog before) :
    Coherent known catalog after := by
  -- Demands of types found earlier stay open or answered whatever the step does.
  have closed : ∀ entry ∈ before.seen.found, ∀ demand ∈ entry.2.demands,
      demand ∈ after.demands ∨ Answered known after.seen demand :=
    fun entry listed demand demanded => step.answers (coherent.closed entry listed demand demanded)
  cases step with
  | described met =>
    -- Nothing is met, so only what waits has changed.
    exact { coherent with closed }
  | plain met optional => exact { coherent with closed }
  | @refused seen after demand rest unmet inspected optional =>
    obtain ⟨unknown, unfound, -⟩ := verdict?_eq_none_iff.mp unmet
    obtain ⟨-, found, ineligible⟩ := inspect_eq_none inspected
    have names : after.foundNames = seen.foundNames := by simp only [foundNames, found]
    exact {
      once := names ▸ coherent.once
      fresh := names ▸ coherent.fresh
      refused := by
        -- The newly refused type was on no record before.
        intro typeName held
        rw [names]
        simp only [ineligible, List.mem_append, List.mem_singleton] at held
        rcases held with earlier | rfl
        · exact coherent.refused typeName earlier
        · exact ⟨unknown, unfound⟩
      declared := found ▸ coherent.declared
      closed := by
        simp only [found]
        exact closed }
  | @found seen after demand rest schema unmet inspected valid =>
    obtain ⟨unknown, unfound, unrefused⟩ := verdict?_eq_none_iff.mp unmet
    obtain ⟨onRecord, marked, -, found, ineligible⟩ := inspect_eq_some inspected
    have names : (after.describe demand.token schema).foundNames =
        seen.foundNames ++ [demand.token.typeName] := by
      rw [foundNames_describe, foundNames, found]
      rfl
    have entries : (after.describe demand.token schema).found =
        seen.found ++ [(demand.token, schema)] := by
      simp only [describe, found]
    exact {
      once := by
        -- The new name would not be without a verdict if it had been found before.
        rw [names]
        exact List.nodup_append.mpr ⟨coherent.once, by simp, by
          intro earlier listed newest last same
          rw [List.mem_singleton] at last
          exact unfound (last ▸ same ▸ listed)⟩
      fresh := by
        -- What is found has no verdict, so the registry does not know it.
        intro typeName held
        rw [names] at held
        rcases List.mem_append.mp held with earlier | newest
        · exact coherent.fresh typeName earlier
        · rw [List.mem_singleton.mp newest]
          exact unknown
      refused := by
        -- No refused type is found later, since it has a verdict.
        intro typeName held
        have earlier : typeName ∈ seen.ineligible := ineligible ▸ held
        refine ⟨(coherent.refused typeName earlier).1, fun here => ?_⟩
        rw [names] at here
        rcases List.mem_append.mp here with before | newest
        · exact (coherent.refused typeName earlier).2 before
        · exact unrefused (List.mem_singleton.mp newest ▸ earlier)
      declared := by
        -- Inspection has read the schema on record, and it was accepted.
        intro entry listed
        rw [entries] at listed
        rcases List.mem_append.mp listed with earlier | newest
        · exact coherent.declared entry earlier
        · rw [List.mem_singleton.mp newest]
          exact ⟨onRecord, marked, valid⟩
      closed := by
        intro entry listed other demanded
        rw [entries] at listed
        rcases List.mem_append.mp listed with earlier | newest
        · exact closed entry earlier other demanded
        · -- The demands of the new type have just joined those that wait.
          rw [List.mem_singleton.mp newest] at demanded
          exact .inl (List.mem_append_left _ demanded) }

/-- Without an obstacle, an exploration ends coherent and with every demand answered. -/
theorem explore_coherent {known : Dict Slot} {catalog : Catalog} {final : Exploration}
    {demands : List Demand} (finished : explore known catalog {} demands = (final, none)) :
    Coherent known catalog ⟨final, []⟩ ∧ ∀ demand ∈ demands, Answered known final demand := by
  -- Both facts hold at the start and are kept by each step of the run.
  have kept : ∀ walk, Relation.ReflTransGen (Step known catalog) ⟨{}, demands⟩ walk →
      Coherent known catalog walk ∧
        ∀ demand ∈ demands, demand ∈ walk.demands ∨ Answered known walk.seen demand := by
    intro walk run
    induction run with
    | refl => exact ⟨coherent_start known catalog demands, fun demand waiting => .inl waiting⟩
    | tail _ step ih =>
      obtain ⟨coherent, pending⟩ := ih
      exact ⟨step.coherent coherent, fun demand asked => step.answers (pending demand asked)⟩
  obtain ⟨coherent, answered⟩ := kept _ (steps_of_explore finished)
  -- No demand waits at the end, so all of them are answered.
  exact ⟨coherent, fun demand asked => (answered demand asked).resolve_left (by simp)⟩

/-- An exploration meets an obstacle in its first demand, and the error says which. -/
inductive Blocked (known : Dict Slot) (catalog : Catalog) : Walk → Error → Prop where
  /-- The type is known to have no descriptor, and one is required. -/
  | plain {seen : Exploration} {demand : Demand} {rest : List Demand} {error : Error}
      (met : verdict? known seen demand.token.typeName = some false)
      (required : demand.refusal? = some error) :
      Blocked known catalog ⟨seen, demand :: rest⟩ error
  /-- The type turns out to have no descriptor, and one is required. -/
  | refused {seen after : Exploration} {demand : Demand} {rest : List Demand} {error : Error}
      (unmet : verdict? known seen demand.token.typeName = none)
      (inspected : seen.inspect catalog demand.token = (none, after))
      (required : demand.refusal? = some error) :
      Blocked known catalog ⟨seen, demand :: rest⟩ error
  /-- The type is to be described, and its schema is faulty. -/
  | invalid {seen after : Exploration} {demand : Demand} {rest : List Demand}
      {schema : RecordSchema} {findings : Findings}
      (unmet : verdict? known seen demand.token.typeName = none)
      (inspected : seen.inspect catalog demand.token = (some schema, after))
      (faulty : schema.validate = .error findings) :
      Blocked known catalog ⟨seen, demand :: rest⟩
        (.unmappableType schema.name (.invalid findings))

/-- An exploration that ends with an error is a run of steps up to an obstacle. -/
theorem obstacle_of_explore {known : Dict Slot} {catalog : Catalog} {seen final : Exploration}
    {demands : List Demand} {error : Error}
    (stopped : explore known catalog seen demands = (final, some error)) :
    ∃ walk, Relation.ReflTransGen (Step known catalog) ⟨seen, demands⟩ walk ∧
      Blocked known catalog walk error := by
  -- Each branch of the worker goes on with one step or stops at one obstacle.
  fun_induction explore known catalog seen demands with
  | case1 =>
    -- Without a demand there is no obstacle.
    cases stopped
  | case2 seen demand rest met ih =>
    obtain ⟨walk, run, blocked⟩ := ih stopped
    exact ⟨walk, .head (.described met) run, blocked⟩
  | case3 seen demand rest met fault required =>
    -- The obstacle is the first demand, so the run is empty.
    cases stopped
    exact ⟨_, .refl, .plain met required⟩
  | case4 seen demand rest met optional ih =>
    obtain ⟨walk, run, blocked⟩ := ih stopped
    exact ⟨walk, .head (.plain met optional) run, blocked⟩
  | case5 seen demand rest unmet after inspected fault required =>
    cases stopped
    exact ⟨_, .refl, .refused unmet inspected required⟩
  | case6 seen demand rest unmet after inspected optional ih =>
    obtain ⟨walk, run, blocked⟩ := ih stopped
    exact ⟨walk, .head (.refused unmet inspected optional) run, blocked⟩
  | case7 seen demand rest unmet schema after inspected findings faulty =>
    cases stopped
    exact ⟨_, .refl, .invalid unmet inspected faulty⟩
  | case8 seen demand rest unmet schema after inspected valid ih =>
    obtain ⟨walk, run, blocked⟩ := ih stopped
    exact ⟨walk, .head (.found unmet inspected valid) run, blocked⟩

/-- The same exploration with a bound on the demands that are met, by which it can be evaluated. -/
def exploreWithin (known : Dict Slot) (catalog : Catalog) :
    Nat → Exploration → List Demand → Option (Exploration × Option Error)
  | _, seen, [] => some (seen, none)
  | 0, _, _ :: _ => none
  | bound + 1, seen, demand :: rest =>
    match verdict? known seen demand.token.typeName with
    | some true => exploreWithin known catalog bound seen rest
    | some false =>
      match demand.refusal? with
      | some error => some (seen, some error)
      | none => exploreWithin known catalog bound seen rest
    | none =>
      match seen.inspect catalog demand.token with
      | (none, after) =>
        match demand.refusal? with
        | some error => some (after, some error)
        | none => exploreWithin known catalog bound after rest
      | (some schema, after) =>
        match schema.validate with
        | .error findings => some (after, some (.unmappableType schema.name (.invalid findings)))
        | .ok () =>
          exploreWithin known catalog bound (after.describe demand.token schema)
            (schema.demands ++ rest)

/-- An exploration ends at a demand only if the bound has one left for it. -/
theorem exists_of_exploreWithin_cons {known : Dict Slot} {catalog : Catalog} {bound : Nat}
    {seen : Exploration} {demand : Demand} {rest : List Demand}
    {result : Exploration × Option Error}
    (finished : exploreWithin known catalog bound seen (demand :: rest) = some result) :
    ∃ left, bound = left + 1 := by
  -- Without anything left of the bound no demand is met.
  cases bound with
  | zero => cases finished
  | succ left => exact ⟨left, rfl⟩

/-- An exploration that ends within a bound ends so without it. -/
theorem explore_of_exploreWithin (bound : Nat) {known : Dict Slot} {catalog : Catalog}
    {seen : Exploration} {demands : List Demand} {result : Exploration × Option Error}
    (finished : exploreWithin known catalog bound seen demands = some result) :
    explore known catalog seen demands = result := by
  -- Both meet the same demands in the same way, each of which takes one from the bound.
  fun_induction explore known catalog seen demands generalizing bound with
  | case1 =>
    -- Without a demand both are at their end.
    rw [exploreWithin] at finished
    exact Option.some.inj finished
  | case2 seen demand rest met ih =>
    obtain ⟨bound, rfl⟩ := exists_of_exploreWithin_cons finished
    rw [exploreWithin, met] at finished
    exact ih bound finished
  | case3 seen demand rest met fault required =>
    -- An obstacle ends both, whatever is left of the bound.
    obtain ⟨bound, rfl⟩ := exists_of_exploreWithin_cons finished
    simp only [exploreWithin, met, required, Option.some.injEq] at finished
    exact finished
  | case4 seen demand rest met optional ih =>
    obtain ⟨bound, rfl⟩ := exists_of_exploreWithin_cons finished
    simp only [exploreWithin, met, optional] at finished
    exact ih bound finished
  | case5 seen demand rest unmet after inspected fault required =>
    obtain ⟨bound, rfl⟩ := exists_of_exploreWithin_cons finished
    simp only [exploreWithin, unmet, inspected, required, Option.some.injEq] at finished
    exact finished
  | case6 seen demand rest unmet after inspected optional ih =>
    obtain ⟨bound, rfl⟩ := exists_of_exploreWithin_cons finished
    simp only [exploreWithin, unmet, inspected, optional] at finished
    exact ih bound finished
  | case7 seen demand rest unmet schema after inspected findings faulty =>
    obtain ⟨bound, rfl⟩ := exists_of_exploreWithin_cons finished
    simp only [exploreWithin, unmet, inspected, faulty, Option.some.injEq] at finished
    exact finished
  | case8 seen demand rest unmet schema after inspected valid ih =>
    obtain ⟨bound, rfl⟩ := exists_of_exploreWithin_cons finished
    simp only [exploreWithin, unmet, inspected, valid] at finished
    exact ih bound finished

end RemoteRecords.Exploration
