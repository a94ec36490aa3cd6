import Std.Data.HashMap
import RemoteRecords.Error
import RemoteRecords.Query.Select
import RemoteRecords.Registry.Basic

/-! Expansion: the select list of all fields within a relationship depth, with and without a cache. -/

namespace RemoteRecords

/-- A step of query compilation, which fails with a fault. -/
abbrev Faulty (m : Type → Type) := MonadExceptOf QueryFault m

namespace Expansion

section Items

variable {m : Type → Type} [Monad m] [Faulty m]

/-- How a descriptor expands one level deeper; at depth zero nothing is deeper. -/
abbrev Deeper (m : Type → Type) := Option (Descriptor → String → m (List SelectItem))

/-- The descriptor that a field leads to. -/
def target (registry : Registry) (field : FieldDescriptor) (id : Option DescriptorId) :
    m Descriptor :=
  match id.bind registry.get? with
  | some descriptor => pure descriptor
  | none => throwThe QueryFault (.unpublishedTarget field.name)

/-- The branches of a polymorphic field; alternatives that expand to nothing have none. -/
def branches (registry : Registry) (deeper : Descriptor → String → m (List SelectItem))
    (field : FieldDescriptor) : List DescriptorId → m (List (String × List SelectItem))
  | [] => pure []
  | id :: rest => do
    let alternative ← target registry field (some id)
    -- Every branch starts a path of its own.
    let items ← deeper alternative ""
    let others ← branches registry deeper field rest
    pure (if items.isEmpty then others else (alternative.name, items) :: others)

/-- The clause of a polymorphic field; without a branch there is none. -/
def typeOf (registry : Registry) (deeper : Descriptor → String → m (List SelectItem))
    (field : FieldDescriptor) : m (List SelectItem) := do
  let held ← branches registry deeper field field.alternatives
  -- The fallback is expanded even if no branch comes to stand before it.
  let others ← match field.related with
    | none => pure []
    | some id => do
      let fallback ← target registry field (some id)
      deeper fallback ""
  pure (if held.isEmpty then [] else [.typeOf field.name held others])

/-- The items of one field below a path. Clauses and subqueries open at the root only. -/
def fieldItems (registry : Registry) (deeper : Deeper m) (path : String) (field : FieldDescriptor) :
    m (List SelectItem) :=
  match field.kind, deeper with
  | .simple, _ => pure [.path (path ++ field.name)]
  | .collection, deeper =>
    if !field.isChild then pure [.path (path ++ field.name)]
    -- Child records can be selected at the root only.
    else if !path.isEmpty then pure []
    else match deeper with
      | none => pure []
      | some deeper => do
        let element ← target registry field field.related
        let items ← deeper element ""
        pure (if items.isEmpty then [] else [.subquery items field.name])
  | .relationship, none => pure []
  | .relationship, some deeper =>
    -- Below the root a polymorphic field leads to its fallback like any other relationship.
    if field.isPolymorphic && path.isEmpty then typeOf registry deeper field
    else match field.related with
      | none => pure []
      | some id => do
        let related ← target registry field (some id)
        deeper related (path ++ field.name ++ ".")

/-- The items of fields below a path, one field after another. -/
def itemsOf (registry : Registry) (deeper : Deeper m) (path : String) :
    List FieldDescriptor → m (List SelectItem)
  | [] => pure []
  | field :: rest => do
    let items ← fieldItems registry deeper path field
    let others ← itemsOf registry deeper path rest
    pure (items ++ others)

end Items

/-- The select list of a descriptor below a path, within a relationship depth. -/
def selectList (registry : Registry) : Nat → Descriptor → String → Except QueryFault (List SelectItem)
  | 0, descriptor, path => itemsOf registry none path descriptor.queryFields
  | depth + 1, descriptor, path =>
    itemsOf registry (some (selectList registry depth)) path descriptor.queryFields

end Expansion

/-- What a cached select list belongs to. -/
structure ExpansionKey where
  descriptor : DescriptorId
  path : String
  depth : Nat
deriving DecidableEq, Hashable, Repr

/-- Select lists that were expanded before. Descriptors never change, so neither do the lists. -/
structure ExpansionCache where
  entries : Std.HashMap ExpansionKey (List SelectItem) := {}

namespace ExpansionCache

instance : Inhabited ExpansionCache := ⟨{}⟩

def get? (cache : ExpansionCache) (key : ExpansionKey) : Option (List SelectItem) :=
  cache.entries[key]?

def insert (cache : ExpansionCache) (key : ExpansionKey) (items : List SelectItem) :
    ExpansionCache :=
  ⟨cache.entries.insert key items⟩

end ExpansionCache

namespace Expansion

/-- Query compilation with a cache. What a failed step has expanded stays in the cache. -/
abbrev Cached := ExceptT QueryFault (StateM ExpansionCache)

/-- Takes a select list from the cache, or else expands it and keeps it there. -/
def remember (key : ExpansionKey) (expand : Cached (List SelectItem)) :
    Cached (List SelectItem) := do
  let cache ← get
  match cache.get? key with
  | some items => pure items
  | none => do
    let items ← expand
    -- A failed expansion leaves no entry of its own.
    modify (·.insert key items)
    pure items

/-- The select list of a descriptor below a path, within a relationship depth, by way of the cache. -/
def cachedList (registry : Registry) : Nat → Descriptor → String → Cached (List SelectItem)
  | 0, descriptor, path =>
    remember ⟨descriptor.id, path, 0⟩ (itemsOf registry none path descriptor.queryFields)
  | depth + 1, descriptor, path =>
    remember ⟨descriptor.id, path, depth + 1⟩
      (itemsOf registry (some (cachedList registry depth)) path descriptor.queryFields)

end Expansion

end RemoteRecords
