import RemoteRecords.Proofs.Rest.FormText
import RemoteRecords.Proofs.Schema.Identifier
import RemoteRecords.Rest.Path

/-! Paths: a path tells what it leads to, and no value in it can make it lead elsewhere. -/

namespace RemoteRecords

/-- What a path leads to: records, a query, or the place where batches go. -/
inductive Resource where
  | records (typeName : String)
  | record (typeName id : String)
  | external (typeName field value : String)
  | query (text : String)
  | queryAll (text : String)
  | batch
deriving DecidableEq, Repr

namespace Resource

/-- The path of a resource. -/
def path (paths : Paths) : Resource → String
  | records typeName => paths.records typeName
  | record typeName id => paths.record typeName id
  | external typeName field value => paths.external typeName field value
  | query text => paths.query text
  | queryAll text => paths.queryAll text
  | batch => paths.batch

/-- The names of types and fields in a resource are identifiers. -/
def Named : Resource → Prop
  | records typeName => Identifier typeName
  | record typeName _ => Identifier typeName
  | external typeName field _ => Identifier typeName ∧ Identifier field
  | _ => True

/-- The segments of a path behind its root. -/
def segments : Resource → List String
  | records typeName => ["sobjects", typeName]
  | record typeName id => ["sobjects", typeName, FormText.segment id]
  | external typeName field value => ["sobjects", typeName, field, FormText.segment value]
  | query text => ["query?" ++ FormText.pair "q" text]
  | queryAll text => ["queryAll?" ++ FormText.pair "q" text]
  | batch => ["composite", "batch"]

/-- A path is its root and its segments, divided by slashes. -/
theorem path_eq (paths : Paths) (resource : Resource) :
    resource.path paths = paths.root ++ "/" ++ String.intercalate "/" resource.segments := by
  -- Each kind of path is put together from these very segments.
  cases resource <;>
    simp [path, segments, Paths.records, Paths.record, Paths.external, Paths.query, Paths.queryAll,
      Paths.batch, String.append_assoc, ← String.toList_inj]

/-- No segment holds a slash. -/
theorem slash_not_mem {resource : Resource} (named : resource.Named) :
    ∀ segment ∈ resource.segments, '/' ∉ segment.toList := by
  -- Names are identifiers, and values are encoded.
  have name : ∀ {name : String}, Identifier name → '/' ∉ name.toList :=
    fun identifier => identifier.not_mem rfl
  have value : ∀ text, '/' ∉ (FormText.pair "q" text).toList := by
    intro text
    simp [FormText.pair, FormText.not_mem_encode]
  cases resource with
  | records typeName => simpa [segments] using name named
  | record typeName id =>
    simpa [segments, FormText.slash_not_mem_segment] using name named
  | external typeName field value =>
    simpa [segments, FormText.slash_not_mem_segment] using ⟨name named.1, name named.2⟩
  | query text => simpa [segments] using value text
  | queryAll text => simpa [segments] using value text
  | batch => decide

/-- Resources with one path have the same segments. -/
theorem segments_eq_of_path_eq {paths : Paths} {left right : Resource} (named : left.Named)
    (named' : right.Named) (same : left.path paths = right.path paths) :
    left.segments = right.segments := by
  -- The slashes between the segments tell them apart, since there are none inside them.
  have split : ∀ {resource : Resource}, resource.Named →
      (String.intercalate "/" resource.segments).toList.splitOn '/' =
        resource.segments.map String.toList := by
    intro resource named
    rw [String.toList_intercalate]
    refine List.splitOn_intercalate '/' ?_ ?_
    · simpa using slash_not_mem named
    · cases resource <;> simp [segments]
  have texts : String.intercalate "/" left.segments = String.intercalate "/" right.segments := by
    simpa [path_eq] using same
  have letters : left.segments.map String.toList = right.segments.map String.toList := by
    rw [← split named, ← split named', texts]
  exact (List.map_injective_iff.mpr fun _ _ => String.toList_inj.mp) letters

/-- Resources with the same segments are the same. -/
theorem eq_of_segments_eq {left right : Resource} (same : left.segments = right.segments) :
    left = right := by
  have pair : ∀ {text other : String}, FormText.pair "q" text = FormText.pair "q" other →
      text = other := fun same => FormText.encode_injective (by simpa [FormText.pair] using same)
  -- A query with deleted records differs from one without behind five letters.
  have apart : ∀ text other : String,
      "query?" ++ FormText.pair "q" text ≠ "queryAll?" ++ FormText.pair "q" other := by
    intro text other same
    simp [← String.toList_inj] at same
  -- Other kinds differ in the number of their segments or in the first one.
  cases left with
  | records typeName =>
    -- The names of the types stand in the segments as they are.
    cases right with
    | records other => simpa [segments] using same
    | _ => simp [segments] at same
  | record typeName id =>
    -- The identifier is told from its segment.
    cases right with
    | record other key =>
      simp only [segments, List.cons.injEq, true_and, and_true] at same
      rw [same.1, FormText.segment_injective same.2]
    | _ => simp [segments] at same
  | external typeName field value =>
    cases right with
    | external other key held =>
      simp only [segments, List.cons.injEq, true_and, and_true] at same
      rw [same.1, same.2.1, FormText.segment_injective same.2.2]
    | _ => simp [segments] at same
  | query text =>
    -- The text is told from the only segment.
    cases right with
    | query other =>
      simp only [segments, List.cons.injEq, String.append_right_inj, and_true] at same
      rw [pair same]
    | queryAll other =>
      simp only [segments, List.cons.injEq, and_true] at same
      exact absurd same (apart text other)
    | _ => simp [segments] at same
  | queryAll text =>
    cases right with
    | query other =>
      simp only [segments, List.cons.injEq, and_true] at same
      exact absurd same.symm (apart other text)
    | queryAll other =>
      simp only [segments, List.cons.injEq, String.append_right_inj, and_true] at same
      rw [pair same]
    | _ => simp [segments] at same
  | batch =>
    cases right with
    | batch => rfl
    | _ => simp [segments] at same

end Resource

namespace Paths

/-- What stands behind the last sign of a kind. -/
def behindLast (sign : Char) (path : String) : List Char :=
  ((path.toList.splitOn sign).getLast?).getD []

/-- The last segment of a path. -/
def lastSegment (path : String) : List Char :=
  behindLast '/' path

/-- The value of a parameter in the query string of a path, as it is written there. -/
def parameter? (key path : String) : Option (List Char) :=
  ((behindLast '?' path).splitOn '&').findSome? (dropStart? (key ++ "=").toList)

/-- What stands behind a sign stands behind the last one if it holds no other. -/
theorem behindLast_eq {sign : Char} {path : String} (front : List Char) {back : List Char}
    (cut : path.toList = front ++ sign :: back) (last : sign ∉ back) :
    behindLast sign path = back := by
  -- The text is cut at each sign, and behind the last cut there is no other.
  simp [behindLast, cut, List.splitOn_append_cons_self, List.splitOn_eq_singleton last]

/-- The last segment of a path that ends in an encoded value is that value. -/
theorem lastSegment_append_segment (front value : String) :
    lastSegment (front ++ "/" ++ FormText.segment value) = (FormText.segment value).toList := by
  -- An encoded value holds no slash, so the last slash is the one ahead of it.
  refine behindLast_eq front.toList ?_ (FormText.slash_not_mem_segment value)
  simp

/-- The only parameter of a query string is found under its name. -/
theorem parameter?_append_pair (front value : String) :
    parameter? "q" (front ++ "?" ++ FormText.pair "q" value) =
      some (FormText.encode value).toList := by
  -- An encoded value holds neither a question mark nor an ampersand, so the pair is all there is.
  have name : FormText.encode "q" = "q" := by decide +kernel
  have pair : (FormText.pair "q" value).toList = 'q' :: '=' :: (FormText.encode value).toList := by
    simp [FormText.pair, name]
  have behind : behindLast '?' (front ++ "?" ++ FormText.pair "q" value) =
      'q' :: '=' :: (FormText.encode value).toList := by
    refine behindLast_eq front.toList (by simp [pair]) ?_
    simp [FormText.not_mem_encode]
  have whole : '&' ∉ 'q' :: '=' :: (FormText.encode value).toList := by
    simp [FormText.not_mem_encode]
  rw [parameter?, behind, List.splitOn_eq_singleton whole]
  simp [dropStart?]

end Paths

/--
Paths tell what they lead to, and values cannot change that.

Whatever the version of the interface, paths of different resources are different, for any identifiers
as names and any texts as identifiers of records, values of keys and queries.
The last segment of a record's path holds nothing but unreserved characters and escapes, and these
are read as the bytes of the value; the parameter of a query is read as its text.
-/
theorem paths_determine_resources (version : String) :
    let paths := Paths.ofVersion version
    (∀ left right : Resource, left.Named → right.Named → left.path paths = right.path paths →
      left = right) ∧
    (∀ typeName id, let last := Paths.lastSegment (paths.record typeName id)
      FormText.Escaped last ∧ FormText.percentDecode? last = some id.toUTF8.toList) ∧
    (∀ typeName field value, let last := Paths.lastSegment (paths.external typeName field value)
      FormText.Escaped last ∧ FormText.percentDecode? last = some value.toUTF8.toList) ∧
    ∀ text,
      (Paths.parameter? "q" (paths.query text)).bind FormText.formDecode? = some text ∧
      (Paths.parameter? "q" (paths.queryAll text)).bind FormText.formDecode? = some text := by
  -- A path is cut at its slashes again, and what stands in its segments is decoded.
  intro paths
  refine ⟨fun left right named named' same =>
      Resource.eq_of_segments_eq (Resource.segments_eq_of_path_eq named named' same),
    fun typeName id => ?_, fun typeName field value => ?_, fun text => ⟨?_, ?_⟩⟩
  · -- The last segment is the identifier of the record, or the value of its key.
    rw [Paths.record, Paths.lastSegment_append_segment]
    exact FormText.segment_spec id
  · rw [Paths.external, Paths.lastSegment_append_segment]
    exact FormText.segment_spec value
  · -- The query string has one parameter, whose value is the text.
    have found := Paths.parameter?_append_pair (paths.root ++ "/query") text
    have cut : paths.query text = paths.root ++ "/query" ++ "?" ++ FormText.pair "q" text := by
      simp [Paths.query, ← String.toList_inj]
    rw [cut, found]
    exact FormText.formDecode?_encode text
  · have found := Paths.parameter?_append_pair (paths.root ++ "/queryAll") text
    have cut : paths.queryAll text = paths.root ++ "/queryAll" ++ "?" ++ FormText.pair "q" text := by
      simp [Paths.queryAll, ← String.toList_inj]
    rw [cut, found]
    exact FormText.formDecode?_encode text

/-- A value with a slash in it leads to no other record: its last segment is the whole value. -/
theorem paths_determine_resources_slash :
    let paths := Paths.ofVersion "58.0"
    paths.record "Account" "Code__c/7" ≠ paths.external "Account" "Code__c" "7" ∧
      FormText.percentDecode? (Paths.lastSegment (paths.record "Account" "Code__c/7")) =
        some "Code__c/7".toUTF8.toList := by
  -- The two paths lead to different resources, so they differ.
  intro paths
  obtain ⟨injective, last, -, -⟩ := paths_determine_resources "58.0"
  have account : Identifier "Account" := identifier_of_faultless (by decide)
  have code : Identifier "Code__c" := identifier_of_faultless (by decide)
  refine ⟨fun same => ?_, (last "Account" "Code__c/7").2⟩
  have resources := injective (.record "Account" "Code__c/7") (.external "Account" "Code__c" "7")
    account ⟨account, code⟩ same
  cases resources

end RemoteRecords
