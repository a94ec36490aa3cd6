import RemoteRecords.Query.Expansion
import RemoteRecords.Query.Template

/-! Compilation: wildcards become field lists, and bounds on the number of rows are appended. -/

namespace RemoteRecords

/-- How a template is compiled. A bound of zero is no bound. -/
structure CompileOptions where
  /-- The relationship depth below the record of a wildcard. -/
  depth : Nat := 5
  limit : UInt32 := 0
  offset : UInt32 := 0
deriving DecidableEq, Repr, Inhabited

namespace Query

/-- The record that a path leads to, and the path as declared. Polymorphic fields lead to their
fallback. -/
def follow (registry : Registry) (wildcard : String) (current : Descriptor) (path : String) :
    List String → Except QueryFault (Descriptor × String)
  | [] => .ok (current, path)
  | segment :: rest =>
    match current.fieldIgnoringCase? segment with
    | none => .error (.unknownField current.name segment wildcard)
    | some field =>
      if !field.isReference then .error (.notSingleValued current.name field.name wildcard)
      else match registry.related? field with
        | none => .error (.noFallback current.name field.name)
        | some next => follow registry wildcard next (path ++ field.name ++ ".") rest

/-- Drops a first segment that names the root itself and none of its fields. -/
def withoutRoot (root : Descriptor) (segments : List String) : List String :=
  match segments with
  | first :: rest =>
    -- A field of the same spelling is meant in place of the root.
    if sameIgnoringCase first root.name && (root.field? first).isNone then rest else segments
  | [] => []

section Compile

variable {m : Type → Type} [Monad m] [Faulty m]

/-- The field list of a wildcard. -/
def expandWildcard (expand : Nat → Descriptor → String → m (List SelectItem)) (registry : Registry)
    (root : Descriptor) (depth : Nat) (segments : List String) : m String := do
  let wildcard := Template.wildcardText segments
  let path := withoutRoot root segments
  match registry.get? root.id with
  | none => throwThe QueryFault (.unpublishedRoot root.name)
  | some start =>
    match follow registry wildcard start "" path with
    | .error fault => throwThe QueryFault fault
    | .ok (reached, dotted) => do
      -- Each segment of the path uses up one level of depth.
      let items ← expand (depth - path.length) reached dotted
      if items.isEmpty then throwThe QueryFault (.noFields wildcard)
      else pure (SelectItem.listText items)

/-- Row bounds as clauses of a query. -/
def bounds (options : CompileOptions) : String :=
  (if options.limit > 0 then " LIMIT " ++ toString options.limit.toNat else "") ++
  (if options.offset > 0 then " OFFSET " ++ toString options.offset.toNat else "")

/-- The query text of a template, by a given expansion. -/
def compileWith (expand : Nat → Descriptor → String → m (List SelectItem)) (registry : Registry)
    (root : Descriptor) (template : String) (options : CompileOptions) : m String := do
  let text ← Template.substitute template (expandWildcard expand registry root options.depth)
  pure (text ++ bounds options)

end Compile

/-- The query text of a template. -/
def compile (registry : Registry) (root : Descriptor) (template : String)
    (options : CompileOptions) : Except QueryFault String :=
  compileWith (Expansion.selectList registry) registry root template options

/-- The query text of a template, by way of the cache. -/
def compileCached (registry : Registry) (root : Descriptor) (template : String)
    (options : CompileOptions) : Expansion.Cached String :=
  compileWith (Expansion.cachedList registry) registry root template options

end Query

end RemoteRecords
