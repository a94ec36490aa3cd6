import Mathlib.Data.List.Nodup
import RemoteRecords.Schema.Validation

/-! Validation: what an accepted schema is free of. -/

namespace RemoteRecords

/-- A repeat is reported for every occurrence of a name but its first. -/
theorem count_repeats (names : List String) (name : String) :
    (repeats names).count name = names.count name - 1 := by
  -- A name that was seen before has no first occurrence left.
  have general : ∀ seen : List String, (repeats.after seen names).count name =
      names.count name - if name ∈ seen then 0 else 1 := by
    induction names with
    | nil => simp [repeats.after]
    | cons first rest ih =>
      intro seen
      rw [repeats.after, List.count_cons]
      by_cases same : first = name
      · subst same
        by_cases met : first ∈ seen
        · simp [met, ih]
        · simp [met, ih]
      · by_cases met : first ∈ seen
        · simp [met, ih, same]
        · simp [met, ih, same, Ne.symm same]
  simpa [repeats] using general []

/-- Names without repeats are those that stand once each. -/
theorem repeats_eq_nil_iff {names : List String} : repeats names = [] ↔ names.Nodup := by
  -- No name is repeated if each is counted once at most.
  rw [List.nodup_iff_count_le_one, List.eq_nil_iff_forall_not_mem]
  simp only [← List.count_eq_zero, count_repeats]
  exact forall_congr' fun name => by omega

/-- A field without faults is neither identifier nor metadata unless it holds a simple value. -/
theorem FieldSchema.roles_of_shape {field : FieldSchema} (faultless : field.faults = [])
    (shaped : field.shape ≠ .simple) : field.isId = false ∧ field.isAttributes = false := by
  simp only [faults, roleFaults, List.append_eq_nil_iff] at faultless
  -- The fault of a role that is not simple is the second of the three.
  have simpleRole := faultless.1.2.1.2
  have differs : (field.shape != .simple) = true := bne_iff_ne.mpr shaped
  cases isId : field.isId <;> cases isAttributes : field.isAttributes <;>
    simp [isId, isAttributes, differs] at simpleRole ⊢

namespace Findings

/-- A node with a message makes every table that it is stored in one with a message. -/
theorem allEmpty_insert {node : Findings} (spoken : node.isEmpty = false)
    (children : Dict Findings) (route : String) :
    allEmpty (Dict.insert children route node) = false := by
  induction children with
  | nil => simp [Dict.insert, allEmpty, spoken]
  | cons entry rest ih =>
    -- The node stands before the entry, in its place, or behind it.
    obtain ⟨other, child⟩ := entry
    rw [Dict.insert]
    split
    · simp [allEmpty, ih]
    · split
      · simp [allEmpty, spoken]
      · simp [allEmpty, spoken]

/-- A message for a route leaves a message below the node. -/
theorem isEmpty_addFor (findings : Findings) (route message : String) :
    (findings.addFor route message).isEmpty = false := by
  -- The node under the route has the message.
  have spoken : ((findings.child route).add message).isEmpty = false := by
    cases findings.child route with
    | node messages children => simp [add, isEmpty]
  simp [addFor, isEmpty, allEmpty_insert spoken]

end Findings

namespace RecordSchema

/-- Messages for fields leave those of the schema as a whole alone. -/
theorem messages_foldl_addFor (fields : List FieldSchema) (part : FieldSchema → List SchemaFault)
    (held : Findings) :
    (fields.foldl (fun held field =>
      (part field).foldl (fun held fault => held.addFor field.name fault.message) held)
      held).messages = held.messages := by
  -- Each message goes below the root, under the name of its field.
  have below : ∀ (name : String) (faults : List SchemaFault) (held : Findings),
      (faults.foldl (fun held fault => held.addFor name fault.message) held).messages =
        held.messages := by
    intro name faults
    induction faults with
    | nil => exact fun _ => rfl
    | cons fault rest ih => exact fun held => (ih _).trans rfl
  induction fields generalizing held with
  | nil => rfl
  | cons field rest ih => rw [List.foldl_cons, ih, below]

/-- The messages of the root are those of the schema as a whole. -/
theorem messages_findings (schema : RecordSchema) :
    schema.findings.messages = schema.ownFaults.map SchemaFault.message := by
  -- Messages of the schema are added to the root in order, and those for fields below it.
  have root : ∀ (faults : List SchemaFault) (held : Findings),
      (faults.foldl (fun held fault => held.add fault.message) held).messages =
        held.messages ++ faults.map SchemaFault.message := by
    intro faults
    induction faults with
    | nil => simp
    | cons fault rest ih =>
      intro held
      obtain ⟨messages, children⟩ := held
      rw [List.foldl_cons, ih]
      simp [Findings.add, Findings.messages]
  simp only [findings, messages_foldl_addFor, root]
  rfl

/-- Findings that are empty after a pass over all fields were empty before it, and no field had a
fault of the kind that the pass was for. -/
theorem isEmpty_foldl_addFor {fields : List FieldSchema} {part : FieldSchema → List SchemaFault}
    {held : Findings}
    (empty : (fields.foldl (fun held field =>
      (part field).foldl (fun held fault => held.addFor field.name fault.message) held)
      held).isEmpty = true) :
    held.isEmpty = true ∧ ∀ field ∈ fields, part field = [] := by
  -- The last fault of a field would leave its message below the root.
  have silent : ∀ (name : String) (faults : List SchemaFault) (held : Findings),
      (faults.foldl (fun held fault => held.addFor name fault.message) held).isEmpty = true →
        faults = [] := by
    intro name faults held empty
    rcases faults.eq_nil_or_concat with none | ⟨before, last, rfl⟩
    · exact none
    · rw [List.concat_eq_append, List.foldl_append, List.foldl_cons, List.foldl_nil,
        Findings.isEmpty_addFor] at empty
      cases empty
  -- The induction is on the fields, and what was empty after the others was empty before them.
  induction fields generalizing held with
  | nil => exact ⟨empty, by simp⟩
  | cons field rest ih =>
    obtain ⟨before, others⟩ := ih empty
    have none := silent _ _ _ before
    refine ⟨by simpa [none] using before, ?_⟩
    intro other listed
    rcases List.mem_cons.mp listed with rfl | later
    · exact none
    · exact others other later

/-- An accepted schema has no findings. -/
theorem isEmpty_of_validate {schema : RecordSchema} (valid : schema.validate = .ok ()) :
    schema.findings.isEmpty = true := by
  -- Only empty findings are a success.
  unfold validate Findings.result at valid
  split at valid
  · assumption
  · cases valid

/-- No field of an accepted schema has a fault. -/
theorem faults_eq_nil_of_validate {schema : RecordSchema} (valid : schema.validate = .ok ())
    {field : FieldSchema} (declared : field ∈ schema.fields) : field.faults = [] := by
  -- The passes are gone through backwards, from the last to the first.
  obtain ⟨afterRoles, shapes⟩ := isEmpty_foldl_addFor (isEmpty_of_validate valid)
  obtain ⟨afterNames, roles⟩ := isEmpty_foldl_addFor afterRoles
  obtain ⟨-, names⟩ := isEmpty_foldl_addFor afterNames
  simp [FieldSchema.faults, names field declared, roles field declared, shapes field declared]

/-- An accepted schema has no fault of its own. -/
theorem ownFaults_eq_nil_of_validate {schema : RecordSchema} (valid : schema.validate = .ok ()) :
    schema.ownFaults = [] := by
  -- Any such fault would leave a message on the root.
  have empty := isEmpty_of_validate valid
  have silent : schema.findings.messages = [] := by
    cases root : schema.findings with
    | node messages children =>
      rw [root, Findings.isEmpty, Bool.and_eq_true, List.isEmpty_iff] at empty
      exact empty.1
  rw [messages_findings] at silent
  exact List.map_eq_nil_iff.mp silent

/-- The fields of an accepted schema have different names. -/
theorem nodup_names_of_validate {schema : RecordSchema} (valid : schema.validate = .ok ()) :
    (schema.fields.map (·.name)).Nodup := by
  -- A name that stands twice would be a fault of the schema.
  have none := ownFaults_eq_nil_of_validate valid
  simp only [ownFaults, List.append_eq_nil_iff, List.map_eq_nil_iff] at none
  exact repeats_eq_nil_iff.mp none.1.1.2

end RecordSchema

end RemoteRecords
