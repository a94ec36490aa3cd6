import RemoteRecords.Proofs.Dict
import RemoteRecords.Proofs.Schema.WellFormed

/-! Recordings: findings keep every message at the path where it was recorded, and report each
once. -/

namespace RemoteRecords

/-- Messages, each with the path of routes that leads to its node. -/
abbrev Entries := List (List String × String)

namespace Entries

/-- The messages of one path, in order. -/
def atPath (entries : Entries) (path : List String) : List String :=
  (entries.filter (·.1 = path)).map Prod.snd

/-- The same messages below a route. -/
def under (route : String) (entries : Entries) : Entries :=
  entries.map fun entry => (route :: entry.1, entry.2)

variable {entries more : Entries} {path : List String}

@[simp] theorem atPath_nil : atPath [] path = [] :=
  -- There is no message to be found.
  rfl

@[simp] theorem atPath_append :
    atPath (entries ++ more) path = entries.atPath path ++ more.atPath path := by
  -- The messages of a path are found in each part, in order.
  simp [atPath]

@[simp] theorem atPath_singleton (place : List String) (message : String) :
    atPath [(place, message)] path = if place = path then [message] else [] := by
  -- The one message stands at its place and at no other.
  by_cases same : place = path <;> simp [atPath, same]

/-- Below a route no message stands on the node itself. -/
@[simp] theorem atPath_under_nil (route : String) : (entries.under route).atPath [] = [] := by
  -- Each path begins with the route, so none is empty.
  simp [atPath, under, List.filter_map, Function.comp_def]

/-- Below a route the messages stand where they stood before. -/
@[simp] theorem atPath_under_cons (route other : String) :
    (entries.under route).atPath (other :: path) =
      if route = other then entries.atPath path else [] := by
  -- A path below the route is the route and a path, and both have to be right.
  by_cases same : route = other <;> simp [atPath, under, List.filter_map, Function.comp_def, same]

/-- Messages of a node alone stand under no other path. -/
@[simp] theorem atPath_map_root (messages : List String) :
    atPath (messages.map ([], ·)) path = if path = [] then messages else [] := by
  -- All paths are empty, so all messages are found or none is.
  by_cases root : path = []
  · simp [atPath, root, List.filter_map, Function.comp_def]
  · simp [atPath, root, List.filter_map, Function.comp_def, Ne.symm root]

/-- Messages that are the same on every path are the same, up to their order. -/
theorem perm_of_atPath (same : ∀ path, entries.atPath path = more.atPath path) :
    entries.Perm more := by
  -- How often a message stands at a path can be counted among the messages of that path.
  have counted (entries : Entries) (path : List String) (message : String) :
      entries.count (path, message) = (entries.atPath path).count message := by
    induction entries with
    | nil => rfl
    | cons first rest ih =>
      obtain ⟨place, held⟩ := first
      rw [List.count_cons, ih]
      by_cases here : place = path <;> simp [atPath, here, List.count_cons]
  rw [List.perm_iff_count]
  rintro ⟨path, message⟩
  rw [counted, counted, same]

end Entries

namespace Findings

/-- The messages of the node that a path of routes leads to. -/
def messagesAt : Findings → List String → List String
  | findings, [] => findings.messages
  | findings, route :: path => (findings.child route).messagesAt path

mutual

/-- The messages of a node and of those below it, with their paths, in the order of a report. -/
def entries : Findings → Entries
  | .node messages children => messages.map ([], ·) ++ entriesBelow children

def entriesBelow : List (String × Findings) → Entries
  | [] => []
  | (route, child) :: rest => (entries child).under route ++ entriesBelow rest

end

/-- The routes below each node stand in key order. -/
inductive Ordered : Findings → Prop where
  | intro {messages : List String} {children : Dict Findings} (sorted : children.Sorted)
      (below : ∀ entry ∈ children, Ordered entry.2) : Ordered (.node messages children)

/-- Findings that additions brought about, with the messages that were recorded, in order. -/
inductive Recorded : Findings → Entries → Prop where
  | empty : Recorded .empty []
  | add {findings : Findings} {entries : Entries} (before : Recorded findings entries)
      (message : String) : Recorded (findings.add message) (entries ++ [([], message)])
  | addFor {findings : Findings} {entries : Entries} (before : Recorded findings entries)
      (route message : String) :
      Recorded (findings.addFor route message) (entries ++ [([route], message)])
  | mergeFor {findings other : Findings} {entries more : Entries}
      (before : Recorded findings entries) (route : String) (merged : Recorded other more) :
      Recorded (findings.mergeFor route other) (entries ++ more.under route)

section Report

/-- A path as it is reported below a prefix. -/
def pathText (start : String) (path : List String) : String :=
  path.foldl join start

mutual

/-- A report lists the messages of a node and of those below it, with their joined paths. -/
theorem flattenFrom_eq (start : String) : (findings : Findings) →
    flattenFrom start findings =
      findings.entries.map fun entry => (pathText start entry.1, entry.2)
  -- A node is reported ahead of those below it, and each of those under its own route.
  | .node messages children => by
    rw [flattenFrom, entries, List.map_append, List.map_map, flattenAll_eq start children]
    rfl

theorem flattenAll_eq (start : String) : (children : List (String × Findings)) →
    flattenAll start children =
      (entriesBelow children).map fun entry => (pathText start entry.1, entry.2)
  -- The first node is reported under its route, and the others after it.
  | [] => rfl
  | (route, child) :: rest => by
    rw [flattenAll, entriesBelow, List.map_append, flattenFrom_eq (join start route) child,
      flattenAll_eq start rest, Entries.under, List.map_map]
    rfl

end

/-- Behind a text that is not empty, routes are joined by points. -/
theorem pathText_of_ne_empty (path : List String) {start : String} (filled : start ≠ "") :
    pathText start path = String.intercalate "." (start :: path) := by
  -- The induction is on the routes, and what is joined so far is never empty.
  induction path generalizing start with
  | nil => rw [String.intercalate_singleton]; rfl
  | cons route rest ih =>
    have joined : join start route = start ++ "." ++ route := by simp [join, filled]
    have longer : start ++ "." ++ route ≠ "" := by simp [filled]
    rw [pathText, List.foldl_cons, joined, ← pathText, ih longer, String.intercalate_cons_append,
      String.intercalate_cons_cons]

/-- Routes that are not empty are joined by points. -/
theorem pathText_eq_intercalate {path : List String} (named : "" ∉ path) :
    pathText "" path = String.intercalate "." path := by
  cases path with
  | nil => rfl
  | cons route rest =>
    -- The first route stands for itself, and a point comes before every other one.
    obtain ⟨filled, -⟩ := not_or.mp (List.mem_cons.not.mp named)
    exact pathText_of_ne_empty rest (Ne.symm filled)

mutual

/-- Findings are empty exactly if there is nothing to report. -/
theorem isEmpty_iff_entries : (findings : Findings) →
    (findings.isEmpty = true ↔ findings.entries = [])
  -- A node is empty if it has no message of its own and none below it.
  | .node messages children => by
    rw [isEmpty, entries, Bool.and_eq_true, List.append_eq_nil_iff, List.map_eq_nil_iff,
      List.isEmpty_iff, allEmpty_iff_entriesBelow children]

theorem allEmpty_iff_entriesBelow : (children : List (String × Findings)) →
    (allEmpty children = true ↔ entriesBelow children = [])
  -- All nodes are empty if the first is and the others are.
  | [] => by simp [allEmpty, entriesBelow]
  | (route, child) :: rest => by
    rw [allEmpty, entriesBelow, Bool.and_eq_true, List.append_eq_nil_iff, Entries.under,
      List.map_eq_nil_iff, isEmpty_iff_entries child, allEmpty_iff_entriesBelow rest]

end

/-- Findings are empty exactly if their report is. -/
theorem isEmpty_iff_flatten {findings : Findings} :
    findings.isEmpty = true ↔ findings.flatten = [] := by
  -- The report has a line for each entry.
  rw [flatten, flattenFrom_eq, List.map_eq_nil_iff, isEmpty_iff_entries]

end Report

section Nodes

variable {findings other : Findings} {route : String} {path : List String}

/-- Without any messages there are none at any path. -/
@[simp] theorem messagesAt_empty (path : List String) : empty.messagesAt path = [] := by
  -- The induction is on the path, each node of which is empty again.
  induction path with
  | nil => rfl
  | cons route rest ih => exact ih

/-- A message of the node itself comes after its others, and those below it stay. -/
theorem messagesAt_add (findings : Findings) (message : String) (path : List String) :
    (findings.add message).messagesAt path =
      findings.messagesAt path ++ if path = [] then [message] else [] := by
  -- The path leads to the node itself, or below it, where nothing has changed.
  obtain ⟨messages, children⟩ := findings
  cases path with
  | nil => rfl
  | cons route rest => exact (List.append_nil _).symm

/-- A message for a route comes after those of the node under it, and all others stay. -/
theorem messagesAt_addFor (findings : Findings) (route message : String) (path : List String) :
    (findings.addFor route message).messagesAt path =
      findings.messagesAt path ++ if path = [route] then [message] else [] := by
  -- The path is empty or begins with a route, which is the one of the message or another.
  cases path with
  | nil => exact (List.append_nil _).symm
  | cons other rest =>
    rw [messagesAt, child_addFor]
    by_cases same : route = other
    · subst same
      simp [messagesAt_add, messagesAt]
    · simp [same, Ne.symm same, messagesAt]

/-- In key order, the nodes of another table are merged into those of their routes, unless they are
empty. -/
theorem get?_mergeAll {added : Dict Findings} (sorted : added.Sorted) (children : Dict Findings)
    (route : String) :
    (Dict.get? (mergeAll children added) route).getD empty =
      let other := (added.get? route).getD empty
      if other.isEmpty then (children.get? route).getD empty
      else merge ((children.get? route).getD empty) other := by
  -- The induction is on the nodes to be merged, of which only one has the route.
  induction added generalizing children with
  | nil => simp [mergeAll, empty, isEmpty, allEmpty]
  | cons entry rest ih =>
    obtain ⟨first, node⟩ := entry
    rw [mergeAll, ih sorted.tail]
    by_cases here : first = route
    · -- No later node has the route again.
      subst here
      have blank : empty.isEmpty = true := rfl
      cases silent : node.isEmpty <;>
        simp [Dict.Sorted.get?_tail sorted, blank, silent, Dict.get?_cons, Dict.get?_insert]
    · cases node.isEmpty <;> simp [here, Dict.get?_cons, Dict.get?_insert]

/-- A node of other findings is merged into the one of its route, unless it is empty. -/
theorem child_merge (findings : Findings) (ordered : other.Ordered) (route : String) :
    (findings.merge other).child route =
      if (other.child route).isEmpty then findings.child route
      else (findings.child route).merge (other.child route) := by
  -- The nodes below are merged route by route.
  cases findings
  cases ordered with
  | intro sorted below => exact get?_mergeAll sorted _ route

/-- Findings that are merged below a route go into the node under it, unless they are empty. -/
theorem child_mergeFor (findings : Findings) (route : String) (other : Findings)
    (place : String) :
    (findings.mergeFor route other).child place =
      if route = place ∧ other.isEmpty = false then (findings.child route).merge other
      else findings.child place := by
  -- There is one node to be merged, so all other routes are left alone.
  have single : (Dict.Sorted [(route, other)]) := List.pairwise_singleton _ _
  have blank : empty.isEmpty = true := rfl
  rw [mergeFor, child, children, get?_mergeAll single]
  by_cases here : route = place
  · subst here
    cases silent : other.isEmpty <;> simp [silent, child, Dict.get?_cons]
  · simp [here, blank, child, Dict.get?_cons]

end Nodes

section Order

variable {findings other : Findings} {route : String} {path : List String}

/-- Findings without any messages are in order. -/
theorem ordered_empty : empty.Ordered :=
  -- There is no route and no node.
  .intro .nil (by simp)

/-- In findings that are in order, each node is. -/
theorem Ordered.child (ordered : findings.Ordered) (route : String) :
    (findings.child route).Ordered := by
  -- The node under the route is one of those below, or it is empty.
  cases ordered with
  | @intro messages children sorted below =>
    change ((Dict.get? children route).getD empty).Ordered
    cases found : Dict.get? children route with
    | none => exact ordered_empty
    | some node => exact below _ (Dict.mem_of_get? found)

/-- The messages of a node are in no order, so others can take their place. -/
theorem Ordered.withMessages (ordered : findings.Ordered) (messages : List String) :
    (node messages findings.children).Ordered := by
  -- Order is a matter of the nodes below only.
  cases ordered with
  | intro sorted below => exact .intro sorted below

/-- A message for the node itself keeps the order. -/
theorem Ordered.add (ordered : findings.Ordered) (message : String) :
    (findings.add message).Ordered := by
  -- The message joins those of the node, and the nodes below stay.
  obtain ⟨messages, children⟩ := findings
  exact ordered.withMessages (messages ++ [message])

/-- Storing a node that is in order keeps the table so. -/
theorem Ordered.insert {messages : List String} {children : Dict Findings}
    (ordered : (node messages children).Ordered) (route : String) (stored : other.Ordered) :
    (node messages (children.insert route other)).Ordered := by
  -- The node that is stored is in order, and so are all the others.
  cases ordered with
  | intro sorted below =>
    refine .intro (sorted.insert route other) fun entry listed => ?_
    rcases Dict.mem_insert listed with rfl | before
    · exact stored
    · exact below entry before

/-- Merging nodes one after another keeps the order if merging each of them does. -/
theorem Ordered.mergeAll {messages : List String} {children added : Dict Findings}
    (ordered : (node messages children).Ordered)
    (each : ∀ entry ∈ added, ∀ findings : Findings, findings.Ordered →
      (findings.merge entry.2).Ordered) :
    (node messages (mergeAll children added)).Ordered := by
  -- The induction is on the nodes to be merged, each of which is stored or skipped.
  induction added generalizing children with
  | nil => exact ordered
  | cons entry rest ih =>
    obtain ⟨route, node⟩ := entry
    rw [Findings.mergeAll.eq_def]
    refine ih ?_ fun entry listed => each entry (List.mem_cons_of_mem _ listed)
    split
    · exact ordered
    · exact ordered.insert route (each _ List.mem_cons_self _ (ordered.child route))

/-- Merging keeps the order. -/
theorem Ordered.merge (ordered : findings.Ordered) (ordered' : other.Ordered) :
    (findings.merge other).Ordered := by
  -- The induction is on the order of the other findings, whose nodes are merged one by one.
  induction ordered' generalizing findings with
  | @intro more added sorted below ih =>
    obtain ⟨messages, children⟩ := findings
    rw [Findings.merge]
    exact (ordered.withMessages (messages ++ more)).mergeAll fun entry listed _ ordered =>
      ih entry listed ordered

/-- Whatever additions bring about is in order. -/
theorem Recorded.ordered {entries : Entries} (recorded : Recorded findings entries) :
    findings.Ordered := by
  -- The induction is on the additions.
  induction recorded with
  | empty => exact ordered_empty
  | add _ message ih => exact ih.add message
  | @addFor findings _ _ route message ih =>
    exact (ih.withMessages findings.messages).insert route ((ih.child route).add message)
  | mergeFor _ route _ ih ih' =>
    -- The only node to be merged is that of the route.
    refine (ih.withMessages _).mergeAll fun entry listed findings ordered => ?_
    rw [List.mem_singleton.mp listed]
    exact ordered.merge ih'

/-- Below a node, no message stands on the node itself. -/
theorem atPath_entriesBelow_nil (children : List (String × Findings)) :
    (entriesBelow children).atPath [] = [] := by
  -- The induction is on the nodes, whose messages all stand below a route.
  induction children with
  | nil => rfl
  | cons entry rest ih =>
    rw [entriesBelow, Entries.atPath_append, ih, Entries.atPath_under_nil, List.append_nil]

/-- In key order, the messages on a path below a node are those of the node under its first route. -/
theorem atPath_entriesBelow_cons {children : Dict Findings} (sorted : children.Sorted)
    (route : String) (path : List String) :
    (entriesBelow children).atPath (route :: path) =
      ((children.get? route).getD empty).entries.atPath path := by
  -- The induction is on the nodes, of which only one has the route.
  induction children with
  | nil => rfl
  | cons entry rest ih =>
    obtain ⟨first, node⟩ := entry
    rw [entriesBelow, Entries.atPath_append, ih sorted.tail, Entries.atPath_under_cons]
    by_cases here : first = route
    · -- No later node has the route again.
      subst here
      simp [Dict.Sorted.get?_tail sorted, Dict.get?_cons, empty, entries, entriesBelow]
    · simp [here, Dict.get?_cons]

/-- The entries of a path are the messages of the node that it leads to. -/
theorem atPath_entries (ordered : findings.Ordered) (path : List String) :
    findings.entries.atPath path = findings.messagesAt path := by
  -- The induction is on the path, from node to node.
  induction path generalizing findings with
  | nil =>
    obtain ⟨messages, children⟩ := findings
    simp [entries, atPath_entriesBelow_nil, messagesAt, Findings.messages]
  | cons route rest ih =>
    have below := ih (ordered.child route)
    cases ordered with
    | intro sorted _ =>
      rw [entries, Entries.atPath_append, atPath_entriesBelow_cons sorted, messagesAt, ← below]
      simp [Findings.child, children]

/-- Empty findings have no messages at any path. -/
theorem messagesAt_of_isEmpty (ordered : findings.Ordered) (silent : findings.isEmpty = true)
    (path : List String) : findings.messagesAt path = [] := by
  -- Empty findings have no entry at any path.
  rw [← atPath_entries ordered, (isEmpty_iff_entries findings).mp silent, Entries.atPath_nil]

/-- Merged messages come after those that stand at their paths already. -/
theorem messagesAt_merge (findings : Findings) (ordered : other.Ordered) (path : List String) :
    (findings.merge other).messagesAt path =
      findings.messagesAt path ++ other.messagesAt path := by
  -- The induction is on the path, each step of which leads to two nodes that are merged.
  induction path generalizing findings other with
  | nil =>
    cases findings
    cases other
    rfl
  | cons route rest ih =>
    rw [messagesAt, child_merge findings ordered, messagesAt, messagesAt]
    split
    · -- An empty node leaves no trace and has no messages to lose.
      rename_i silent
      rw [messagesAt_of_isEmpty (ordered.child route) silent, List.append_nil]
    · exact ih _ (ordered.child route)

/-- Messages that are merged below a route come after those that stand at their paths already. -/
theorem messagesAt_mergeFor (findings : Findings) (route : String) (ordered : other.Ordered)
    (path : List String) :
    (findings.mergeFor route other).messagesAt (route :: path) =
      findings.messagesAt (route :: path) ++ other.messagesAt path := by
  -- The node under the route is merged with the other findings, unless these are empty.
  rw [messagesAt, child_mergeFor, messagesAt]
  cases silent : other.isEmpty with
  | true =>
    -- Empty findings have nothing to add.
    simp [messagesAt_of_isEmpty ordered silent]
  | false => simp [messagesAt_merge _ ordered]

/-- Merging below a route leaves the messages of all other paths alone. -/
theorem messagesAt_mergeFor_of_not_below (findings : Findings) (other : Findings)
    (apart : ¬ [route] <+: path) :
    (findings.mergeFor route other).messagesAt path = findings.messagesAt path := by
  -- Such a path is empty or begins with another route.
  cases path with
  | nil => rfl
  | cons place rest =>
    have differs : route ≠ place := by simpa using apart
    rw [messagesAt, child_mergeFor, if_neg fun both => differs both.1, messagesAt]

/-- At each path stand the messages that were recorded there, in order. -/
theorem Recorded.messagesAt_eq {entries : Entries} (recorded : Recorded findings entries)
    (path : List String) : findings.messagesAt path = entries.atPath path := by
  -- The induction is on the additions, each of which adds its messages behind those of their paths.
  induction recorded generalizing path with
  | empty => exact messagesAt_empty path
  | add _ message ih =>
    rw [messagesAt_add, ih, Entries.atPath_append, Entries.atPath_singleton]
    simp [eq_comm]
  | addFor _ route message ih =>
    rw [messagesAt_addFor, ih, Entries.atPath_append, Entries.atPath_singleton]
    simp [eq_comm]
  | mergeFor _ route merged ih ih' =>
    -- What is merged stands at paths that begin with the route.
    rw [Entries.atPath_append, ← ih]
    cases path with
    | nil => simpa using messagesAt_mergeFor_of_not_below _ _ (by simp)
    | cons place rest =>
      rw [Entries.atPath_under_cons]
      split
      · rename_i same
        rw [← same, messagesAt_mergeFor _ _ merged.ordered, ih']
      · rename_i differs
        rw [messagesAt_mergeFor_of_not_below _ _ (by simpa using differs), List.append_nil]

/-- Every message that was recorded is an entry once. -/
theorem Recorded.entries_perm {entries : Entries} (recorded : Recorded findings entries) :
    findings.entries.Perm entries := by
  -- At each path the same messages stand in both.
  refine Entries.perm_of_atPath fun path => ?_
  rw [atPath_entries recorded.ordered, recorded.messagesAt_eq]

end Order

/--
Findings lose no message, however they come about.

Merging below a route puts the other messages behind those of the same paths and leaves all other
paths alone, so at each path stand the messages that were recorded there, in order.
Findings are empty, and a success, exactly if no message was ever recorded.
The report lists every message once, below its routes joined by points if none of these is empty.
-/
theorem recorded_messages_are_kept {findings other : Findings} {entries more : Entries}
    (recorded : Recorded findings entries) (recorded' : Recorded other more) :
    (∀ route path, (findings.mergeFor route other).messagesAt (route :: path) =
      findings.messagesAt (route :: path) ++ other.messagesAt path) ∧
    (∀ route path, ¬[route] <+: path →
      (findings.mergeFor route other).messagesAt path = findings.messagesAt path) ∧
    (∀ path, findings.messagesAt path = (entries.filter (·.1 = path)).map Prod.snd) ∧
    (findings.isEmpty = true ↔ findings.flatten = []) ∧ (findings.flatten = [] ↔ entries = []) ∧
    (entries = [] → findings.result = .ok ()) ∧
    (entries ≠ [] → findings.result = .error findings) ∧
    ((∀ entry ∈ entries, "" ∉ entry.1) → findings.flatten.Perm
      (entries.map fun entry => (String.intercalate "." entry.1, entry.2))) := by
  -- Entries and recorded messages are the same up to order, and a report lists the entries.
  have listed := recorded.entries_perm
  have silent : findings.isEmpty = true ↔ entries = [] := by
    rw [isEmpty_iff_entries]
    exact ⟨fun none => (none ▸ listed).symm.eq_nil, fun none => (none ▸ listed).eq_nil⟩
  refine ⟨fun route path => messagesAt_mergeFor findings route recorded'.ordered path,
    fun route path => messagesAt_mergeFor_of_not_below findings other, recorded.messagesAt_eq,
    isEmpty_iff_flatten, isEmpty_iff_flatten.symm.trans silent, ?_, ?_, ?_⟩
  · intro none
    rw [result, if_pos (silent.mpr none)]
  · intro some
    rw [result, if_neg (silent.not.mpr some)]
  · intro named
    rw [flatten, flattenFrom_eq]
    refine (listed.map _).trans (List.Perm.of_eq (List.map_congr_left fun entry held => ?_))
    exact congrArg (·, entry.2) (pathText_eq_intercalate (named entry held))

/-- Findings about an account and the name of its owner. -/
def ownerFindings : Findings :=
  (empty.add "no identifier").mergeFor "Owner" (empty.addFor "Name" "not written")

/-- Findings about an owner. -/
def moreFindings : Findings :=
  (empty.addFor "Name" "too long").add "bad target"

/-- Findings about an owner that are merged with those before lose no message. -/
theorem recorded_messages_are_kept_owner :
    let merged := ownerFindings.mergeFor "Owner" moreFindings
    merged.messagesAt ["Owner", "Name"] = ["not written", "too long"] ∧
    merged.messagesAt [] = ["no identifier"] ∧ merged.result = .error merged ∧
    merged.flatten.Perm [("", "no identifier"), ("Owner.Name", "not written"),
      ("Owner.Name", "too long"), ("Owner", "bad target")] := by
  -- Both findings were recorded step by step, and so was the merged one.
  intro merged
  have before : Recorded ownerFindings _ := (Recorded.empty.add _).mergeFor _ (.addFor .empty _ _)
  have more : Recorded moreFindings _ := (Recorded.empty.addFor _ _).add _
  obtain ⟨joined, apart, -⟩ := recorded_messages_are_kept before more
  obtain ⟨-, -, -, -, -, -, rejected, listed⟩ :=
    recorded_messages_are_kept (before.mergeFor "Owner" more) more
  exact ⟨joined "Owner" ["Name"], apart "Owner" [] (by decide), rejected (by decide),
    listed (by decide)⟩

end Findings

end RemoteRecords
