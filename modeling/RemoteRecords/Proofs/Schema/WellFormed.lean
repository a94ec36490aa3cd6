import RemoteRecords.Proofs.Letters
import RemoteRecords.Proofs.Schema.Identifier

/-! Well-formed schemas: exactly these are accepted, and every violation is reported where it is. -/

namespace RemoteRecords

/-- A word of ASCII letters, digits and underscores without a digit in front, of at most 80 bytes. -/
structure WellNamed (name : String) : Prop where
  spelled : ∃ first rest, name.toList = first :: rest ∧ (first.isAlpha = true ∨ first = '_') ∧
    ∀ c ∈ rest, c.isAlphanum = true ∨ c = '_'
  short : name.utf8ByteSize ≤ 80

namespace FieldSchema

/-- A field that a schema may declare. -/
structure WellFormed (field : FieldSchema) : Prop where
  named : WellNamed field.name
  oneRole : ¬ (field.isId = true ∧ field.isAttributes = true)
  plain : field.isId = true ∨ field.isAttributes = true → field.shape = .simple
  unwritten : field.isAttributes = true → field.insertable = false ∧ field.updatable = false
  choices : ∀ alternatives fallback, field.shape = .polymorphic alternatives fallback →
    alternatives ≠ [] ∧ alternatives.Pairwise (fun left right => left.sameType right = false) ∧
      ∀ token, fallback = some token → token.kind = .mapped

/-- A field breaks a rule other than that for names, and the fault says which. -/
inductive Violates (field : FieldSchema) : SchemaFault → Prop where
  | bothRoles (isId : field.isId = true) (isAttributes : field.isAttributes = true) :
      Violates field .idAndAttributes
  | notPlain (inRole : field.isId = true ∨ field.isAttributes = true)
      (shaped : field.shape ≠ .simple) : Violates field .roleNotSimple
  | written (isAttributes : field.isAttributes = true)
      (writable : field.insertable = true ∨ field.updatable = true) :
      Violates field .writableAttributes
  | noAlternatives {fallback : Option TypeRef} (shaped : field.shape = .polymorphic [] fallback) :
      Violates field .noAlternatives
  | repeated {alternatives : List TypeRef} {fallback : Option TypeRef} {typeName : String}
      (shaped : field.shape = .polymorphic alternatives fallback)
      (twice : 2 ≤ alternatives.countP (·.typeName == typeName)) :
      Violates field (.repeatedAlternative typeName)
  | unmapped {alternatives : List TypeRef} {token : TypeRef}
      (shaped : field.shape = .polymorphic alternatives (some token))
      (plain : token.kind ≠ .mapped) : Violates field (.unmappedFallback token.typeName)

end FieldSchema

/-- A schema whose types can be described. -/
structure RecordSchema.WellFormed (schema : RecordSchema) : Prop where
  named : WellNamed schema.name
  fields : ∀ field ∈ schema.fields, field.WellFormed
  distinct : (schema.fields.map (·.name)).Nodup
  oneId : schema.fields.countP (·.isId) ≤ 1
  oneAttributes : schema.fields.countP (·.isAttributes) ≤ 1

/-- A name has no fault exactly if it is well-formed. -/
theorem NameFault.of?_eq_none_iff {name : String} : of? name = none ↔ WellNamed name := by
  -- A name without a fault is an identifier, and the limit is all that is left.
  constructor
  · intro faultless
    obtain ⟨filled, start, letters⟩ := identifier_of_faultless faultless
    constructor
    · cases spelled : name.toList with
      | nil => exact absurd (String.toList_eq_nil_iff.mp spelled) filled
      | cons first rest =>
        have each : ∀ c ∈ first :: rest, c.isAlphanum = true ∨ c = '_' := by
          intro c listed
          simpa [isNameChar] using letters c (spelled ▸ listed)
        refine ⟨first, rest, rfl, ?_, fun c listed => each c (List.mem_cons_of_mem _ listed)⟩
        -- The first character is no digit, so it is a letter if it is no underscore.
        have noDigit := start first (by simp [spelled])
        simpa [Char.isAlphanum, noDigit] using each first List.mem_cons_self
    · -- A name that is too long would have a fault.
      by_contra long
      simp [of?, limit, Nat.lt_of_not_le long, String.isEmpty_iff, filled] at faultless
  · -- A well-formed name passes each check.
    rintro ⟨⟨first, rest, spelled, start, letters⟩, short⟩
    have filled : name.isEmpty = false := by
      rw [← Bool.not_eq_true, String.isEmpty_iff, ← String.toList_eq_nil_iff, spelled]
      exact List.cons_ne_nil first rest
    have noDigit : first.isDigit = false := by
      rcases start with letter | rfl
      · exact isDigit_of_isAlpha letter
      · rfl
    have each : (first :: rest).all isNameChar = true := by
      simp only [List.all_cons, Bool.and_eq_true, List.all_eq_true, isNameChar, Bool.or_eq_true,
        beq_iff_eq]
      exact ⟨start.imp_left fun alpha => by simp [Char.isAlphanum, alpha], letters⟩
    simp [of?, limit, filled, Nat.not_lt.mpr short, spelled, noDigit, each]

namespace Findings

/-- A message for a route joins those of the node under it. -/
theorem child_addFor (findings : Findings) (route message other : String) :
    (findings.addFor route message).child other =
      if route = other then (findings.child route).add message else findings.child other := by
  -- The node that is stored under a route is found under it, and all others stay.
  simp only [child, addFor, children, Dict.get?_insert]
  split <;> rfl

/-- A message that is added to a node comes after its others. -/
@[simp] theorem messages_add (findings : Findings) (message : String) :
    (findings.add message).messages = findings.messages ++ [message] := by
  -- Only the list of the node itself is longer.
  cases findings
  rfl

/-- The messages of a node are listed under its path, before all others. -/
theorem messages_prefix_flattenFrom (path : String) (findings : Findings) :
    findings.messages.map (path, ·) <+: flattenFrom path findings := by
  -- A report of a node begins with its own messages.
  cases findings
  exact List.prefix_append _ _

/-- The messages of a node below the root are listed under its route. -/
theorem mem_flatten_of_child {findings : Findings} {route message : String}
    (held : message ∈ (findings.child route).messages) : (route, message) ∈ findings.flatten := by
  -- A message that is held needs a node to hold it, so the route has one.
  obtain ⟨messages, children⟩ := findings
  cases found : Dict.get? children route with
  | none => simp [child, Findings.children, found, empty, Findings.messages] at held
  | some node =>
    -- The node is one of the root's children, and all of these are listed.
    have listed := Dict.mem_of_get? found
    have own : (route, message) ∈ flattenFrom (join "" route) node := by
      refine (messages_prefix_flattenFrom _ node).subset ?_
      simp only [child, Findings.children, found, Option.getD_some] at held
      simpa [join] using held
    -- The report goes through the children one by one.
    have below : ∀ children : List (String × Findings), (route, node) ∈ children →
        (route, message) ∈ flattenAll "" children := by
      intro children listed
      induction children with
      | nil => cases listed
      | cons first rest ih =>
        rw [flattenAll]
        rcases List.mem_cons.mp listed with rfl | later
        · exact List.mem_append_left _ own
        · exact List.mem_append_right _ (ih later)
    exact List.mem_append_right _ (below children listed)

end Findings

namespace FieldSchema

/-- A field has no fault of its role exactly if it has at most one role, as a plain value, and is not
written if that role is metadata. -/
theorem roleFaults_eq_nil_iff {field : FieldSchema} :
    field.roleFaults = [] ↔
      ¬ (field.isId = true ∧ field.isAttributes = true) ∧
        (field.isId = true ∨ field.isAttributes = true → field.shape = .simple) ∧
        (field.isAttributes = true → field.insertable = false ∧ field.updatable = false) := by
  -- There is one fault for each of the three conditions.
  simp only [roleFaults, List.append_eq_nil_iff, ite_eq_right_iff, List.cons_ne_nil, imp_false,
    Bool.and_eq_true, Bool.or_eq_true, bne_iff_ne, and_assoc, not_and, not_or, ne_eq,
    Decidable.not_not, Bool.not_eq_true]

/-- A polymorphic field has no fault of its shape exactly if it has alternatives, all different, and a
mapped fallback if any. -/
theorem shapeFaults_eq_nil_iff {field : FieldSchema} :
    field.shapeFaults = [] ↔
      ∀ alternatives fallback, field.shape = .polymorphic alternatives fallback →
        alternatives ≠ [] ∧ alternatives.Pairwise (fun left right => left.sameType right = false) ∧
          ∀ token, fallback = some token → token.kind = .mapped := by
  -- Only a polymorphic field can have a fault of its shape.
  unfold shapeFaults
  cases shape : field.shape with
  | simple | reference | collection => simp
  | polymorphic alternatives fallback =>
    -- Alternatives are of the same type if they have its name.
    have once : (alternatives.map (·.typeName)).Nodup ↔
        alternatives.Pairwise fun left right => left.sameType right = false := by
      simp [List.Nodup, List.pairwise_map, TypeRef.sameType]
    simp only [List.append_eq_nil_iff, List.map_eq_nil_iff, repeats_eq_nil_iff, once, and_assoc,
      FieldShape.polymorphic.injEq, and_imp]
    cases fallback <;> simp

/-- A field is well-formed exactly if it has no fault. -/
theorem faults_eq_nil_iff {field : FieldSchema} : field.faults = [] ↔ field.WellFormed := by
  -- The faults of a field are those of its name, of its roles and of its shape.
  simp only [faults, nameFaults, List.append_eq_nil_iff, List.map_eq_nil_iff,
    Option.toList_eq_nil_iff, NameFault.of?_eq_none_iff, roleFaults_eq_nil_iff,
    shapeFaults_eq_nil_iff]
  constructor
  · rintro ⟨⟨named, oneRole, plain, unwritten⟩, choices⟩
    exact ⟨named, oneRole, plain, unwritten, choices⟩
  · rintro ⟨named, oneRole, plain, unwritten, choices⟩
    exact ⟨⟨named, oneRole, plain, unwritten⟩, choices⟩

/-- Every violation is one of the field's faults. -/
theorem Violates.mem_faults {field : FieldSchema} {fault : SchemaFault}
    (violates : field.Violates fault) : fault ∈ field.faults := by
  -- Each violation is found by one of the checks of a field.
  simp only [faults, List.mem_append]
  cases violates with
  | bothRoles isId isAttributes =>
    exact .inl (.inr (by simp [roleFaults, isId, isAttributes]))
  | notPlain inRole shaped =>
    exact .inl (.inr (by simp [roleFaults, inRole, shaped]))
  | written isAttributes writable =>
    exact .inl (.inr (by simp [roleFaults, isAttributes, writable]))
  | noAlternatives shaped => exact .inr (by simp [shapeFaults, shaped])
  | @repeated alternatives fallback typeName shaped twice =>
    -- The type stands among the repeats once less than among the alternatives.
    have again : typeName ∈ repeats (alternatives.map (·.typeName)) := by
      rw [← List.count_pos_iff, count_repeats, List.count, List.countP_map]
      have twice : 2 ≤ List.countP ((· == typeName) ∘ (·.typeName)) alternatives := twice
      omega
    exact .inr (by simp [shapeFaults, shaped, again])
  | unmapped shaped plain => exact .inr (by simp [shapeFaults, shaped, plain])

end FieldSchema

namespace RecordSchema

/-- A pass over all fields adds the messages for each field to the node under the field's name. -/
theorem messages_child_foldl_addFor (fields : List FieldSchema)
    (part : FieldSchema → List SchemaFault) (held : Findings) (name : String) :
    ((fields.foldl (fun held field =>
      (part field).foldl (fun held fault => held.addFor field.name fault.message) held)
      held).child name).messages =
      (held.child name).messages ++ (fields.filter (·.name == name)).flatMap fun field =>
        (part field).map SchemaFault.message := by
  -- One field leaves all nodes alone but the one under its own name.
  have single : ∀ (own : String) (faults : List SchemaFault) (held : Findings),
      ((faults.foldl (fun held fault => held.addFor own fault.message) held).child name).messages =
        (held.child name).messages ++
          if own = name then faults.map SchemaFault.message else [] := by
    intro own faults
    induction faults with
    | nil => simp
    | cons fault rest ih =>
      intro held
      rw [List.foldl_cons, ih, Findings.child_addFor]
      by_cases same : own = name
      · subst same
        simp
      · simp [same]
  -- Field by field, only those of the name add to its node.
  induction fields generalizing held with
  | nil => simp
  | cons field rest ih =>
    rw [List.foldl_cons, ih, single, List.filter_cons]
    by_cases same : field.name = name
    · simp [same]
    · simp [same]

/-- A fault of a field leaves its message on the node under the field's name. -/
theorem mem_messages_of_fault {schema : RecordSchema} {field : FieldSchema}
    (declared : field ∈ schema.fields) {fault : SchemaFault} (held : fault ∈ field.faults) :
    fault.message ∈ (schema.findings.child field.name).messages := by
  -- The field is one of those that are checked for its name.
  have among : ∀ part : FieldSchema → List SchemaFault, fault ∈ part field →
      fault.message ∈ (schema.fields.filter (·.name == field.name)).flatMap fun field =>
        (part field).map SchemaFault.message := by
    intro part own
    refine List.mem_flatMap.mpr ⟨field, List.mem_filter.mpr ⟨declared, by simp⟩, ?_⟩
    exact List.mem_map_of_mem own
  -- Each kind of fault has a pass of its own, and later passes keep what is there.
  simp only [findings, messages_child_foldl_addFor, List.mem_append]
  simp only [FieldSchema.faults, List.mem_append] at held
  rcases held with (named | roles) | shaped
  · exact .inl (.inl (.inr (among _ named)))
  · exact .inl (.inr (among _ roles))
  · exact .inr (among _ shaped)

/-- A pass over fields without faults leaves the findings as they are. -/
theorem foldl_addFor_of_faultless {fields : List FieldSchema}
    {part : FieldSchema → List SchemaFault} (faultless : ∀ field ∈ fields, part field = [])
    (held : Findings) :
    fields.foldl (fun held field =>
      (part field).foldl (fun held fault => held.addFor field.name fault.message) held) held =
      held := by
  -- The induction is on the fields, none of which has anything to report.
  induction fields generalizing held with
  | nil => rfl
  | cons field rest ih =>
    obtain ⟨here, others⟩ := List.forall_mem_cons.mp faultless
    rw [List.foldl_cons, here, List.foldl_nil, ih others]

/-- A schema is accepted exactly if neither it nor any of its fields has a fault. -/
theorem validate_eq_ok_iff {schema : RecordSchema} :
    schema.validate = .ok () ↔
      schema.ownFaults = [] ∧ ∀ field ∈ schema.fields, field.faults = [] := by
  -- An accepted schema has no fault, and without a fault nothing is reported.
  constructor
  · exact fun valid => ⟨ownFaults_eq_nil_of_validate valid, fun _ => faults_eq_nil_of_validate valid⟩
  · rintro ⟨own, fields⟩
    simp only [FieldSchema.faults, List.append_eq_nil_iff] at fields
    -- None of the passes finds anything to report.
    have silent : schema.findings = .empty := by
      simp only [findings, own, List.foldl_nil]
      rw [foldl_addFor_of_faultless fun field listed => (fields field listed).2,
        foldl_addFor_of_faultless fun field listed => (fields field listed).1.2,
        foldl_addFor_of_faultless fun field listed => (fields field listed).1.1]
    rw [validate, silent]
    rfl

/-- A schema has no fault of its own exactly if its name is well-formed, its fields have different
names, and no role is given twice. -/
theorem ownFaults_eq_nil_iff {schema : RecordSchema} :
    schema.ownFaults = [] ↔
      WellNamed schema.name ∧ (schema.fields.map (·.name)).Nodup ∧
        schema.fields.countP (·.isId) ≤ 1 ∧ schema.fields.countP (·.isAttributes) ≤ 1 := by
  -- There is one kind of fault for each of the four conditions.
  simp only [ownFaults, List.append_eq_nil_iff, List.map_eq_nil_iff, Option.toList_eq_nil_iff,
    NameFault.of?_eq_none_iff, repeats_eq_nil_iff, ite_eq_right_iff, and_assoc]
  simp

/-- What is rejected comes with the findings. -/
theorem eq_findings_of_validate {schema : RecordSchema} {errors : Findings}
    (rejected : schema.validate = .error errors) : errors = schema.findings := by
  -- A schema is rejected with what was found, and with nothing else.
  unfold validate Findings.result at rejected
  split at rejected
  · cases rejected
  · exact (Except.error.inj rejected).symm

/-- A fault of the schema as a whole is listed without a route. -/
theorem mem_flatten_of_ownFault {schema : RecordSchema} {fault : SchemaFault}
    (held : fault ∈ schema.ownFaults) : ("", fault.message) ∈ schema.findings.flatten := by
  -- Faults of the schema leave their messages on the root, which a report lists first.
  refine (Findings.messages_prefix_flattenFrom "" schema.findings).subset (List.mem_map_of_mem ?_)
  rw [messages_findings]
  exact List.mem_map_of_mem held

/-- Each occurrence of a field's name but the first is listed without a route. -/
theorem count_flatten_of_repeated (schema : RecordSchema) (name : String) :
    (schema.fields.map (·.name)).count name - 1 ≤
      schema.findings.flatten.count ("", (SchemaFault.duplicateField name).message) := by
  -- Each repeat is a fault of the schema, and each fault of the schema is a line of the report.
  let repeated := repeats (schema.fields.map (·.name))
  let entry (fault : SchemaFault) := ("", fault.message)
  have among : (repeated.map SchemaFault.duplicateField).Sublist schema.ownFaults := by
    simp only [ownFaults, List.append_assoc]
    exact (List.sublist_append_left _ _).trans (List.sublist_append_right _ _)
  have listed : (schema.ownFaults.map entry).Sublist schema.findings.flatten := by
    have own := (Findings.messages_prefix_flattenFrom "" schema.findings).sublist
    rwa [messages_findings, List.map_map] at own
  calc (schema.fields.map (·.name)).count name - 1
      = repeated.count name := (count_repeats _ name).symm
    _ ≤ (repeated.map SchemaFault.duplicateField).count (.duplicateField name) :=
        List.count_le_count_map
    _ ≤ ((repeated.map SchemaFault.duplicateField).map entry).count
          (entry (.duplicateField name)) := List.count_le_count_map
    _ ≤ schema.findings.flatten.count (entry (.duplicateField name)) :=
        ((among.map entry).trans listed).count_le _

/--
A schema is accepted exactly if it is well-formed.

If it is not, the findings list an entry under the name of each field with a malformed name, and one
for each violation of the other rules for fields.
Without a route they list an entry for each occurrence of a name but its first, for the number of
identifiers or metadata fields if there is more than one, and for a malformed name of the type.
-/
theorem validate_accepts_wellFormed (schema : RecordSchema) :
    (schema.validate = .ok () ↔ schema.WellFormed) ∧
    ∀ errors, schema.validate = .error errors →
      let reported := errors.flatten
      let ids := schema.fields.countP (·.isId)
      let attributes := schema.fields.countP (·.isAttributes)
      (∀ field ∈ schema.fields, ¬ WellNamed field.name →
        ∃ fault, (field.name, (SchemaFault.fieldName fault).message) ∈ reported) ∧
      (∀ field ∈ schema.fields, ∀ fault, field.Violates fault →
        (field.name, fault.message) ∈ reported) ∧
      (∀ name, (schema.fields.map (·.name)).count name - 1 ≤
        reported.count ("", (SchemaFault.duplicateField name).message)) ∧
      (1 < ids → ("", (SchemaFault.manyIds ids).message) ∈ reported) ∧
      (1 < attributes → ("", (SchemaFault.manyAttributes attributes).message) ∈ reported) ∧
      (¬ WellNamed schema.name →
        ∃ fault, ("", (SchemaFault.typeName schema.name fault).message) ∈ reported) := by
  -- Acceptance is the absence of faults, and every fault leaves its line in the report.
  constructor
  · simp only [validate_eq_ok_iff, ownFaults_eq_nil_iff, FieldSchema.faults_eq_nil_iff]
    constructor
    · -- The conditions on the schema and on its fields are those of being well-formed.
      rintro ⟨⟨named, distinct, oneId, oneAttributes⟩, fields⟩
      exact ⟨named, fields, distinct, oneId, oneAttributes⟩
    · rintro ⟨named, fields, distinct, oneId, oneAttributes⟩
      exact ⟨⟨named, distinct, oneId, oneAttributes⟩, fields⟩
  · intro errors rejected reported ids attributes
    obtain rfl := eq_findings_of_validate rejected
    -- A malformed name has a fault, which is the one that is reported.
    have fault_of_name : ∀ {name}, ¬ WellNamed name → ∃ fault, NameFault.of? name = some fault :=
      fun malformed => Option.ne_none_iff_exists'.mp (mt NameFault.of?_eq_none_iff.mp malformed)
    refine ⟨fun field declared malformed => ?_, fun field declared fault violates =>
      Findings.mem_flatten_of_child (mem_messages_of_fault declared violates.mem_faults),
      count_flatten_of_repeated schema, fun several => mem_flatten_of_ownFault ?_,
      fun several => mem_flatten_of_ownFault ?_, fun malformed => ?_⟩
    · obtain ⟨fault, found⟩ := fault_of_name malformed
      refine ⟨fault, Findings.mem_flatten_of_child (mem_messages_of_fault declared ?_)⟩
      simp [FieldSchema.faults, FieldSchema.nameFaults, found]
    · simp only [ownFaults, List.mem_append]
      exact .inl (.inr (by simp [ids, show 1 < schema.fields.countP (·.isId) from several]))
    · simp only [ownFaults, List.mem_append]
      exact .inr (by
        simp [attributes, show 1 < schema.fields.countP (·.isAttributes) from several])
    · obtain ⟨fault, found⟩ := fault_of_name malformed
      refine ⟨fault, mem_flatten_of_ownFault ?_⟩
      simp [ownFaults, found]

/-- A task with two names and a polymorphic field without alternatives is rejected, and both faults
are listed. -/
theorem validate_accepts_wellFormed_task :
    let schema : RecordSchema :=
      { name := "Task", fields := [.simple "Name", .simple "Name", .polymorphic "What" []] }
    ∃ errors, schema.validate = .error errors ∧
      ("What", "polymorphic field declares no alternatives") ∈ errors.flatten ∧
      1 ≤ errors.flatten.count ("", "duplicate field 'Name'") := by
  -- Its names are not different, so it is rejected, and both faults are among those reported.
  intro schema
  obtain ⟨accepts, reports⟩ := validate_accepts_wellFormed schema
  cases checked : schema.validate with
  | ok accepted => exact absurd (accepts.mp checked).distinct (by decide)
  | error errors =>
    obtain ⟨-, violated, repeated, -⟩ := reports errors checked
    exact ⟨errors, rfl, violated (.polymorphic "What" []) (by simp [schema]) _ (.noAlternatives rfl),
      repeated "Name"⟩

end RecordSchema

end RemoteRecords
