import RemoteRecords.Dict

/-! Findings of a validation: messages on a node and, by route, on the nodes below it. -/

namespace RemoteRecords

/-- A tree of messages; the routes below a node stand in key order. -/
inductive Findings where
  | node (messages : List String) (children : List (String × Findings))
deriving Repr, Inhabited

namespace Findings

def empty : Findings :=
  .node [] []

def messages : Findings → List String
  | .node messages _ => messages

def children : Findings → Dict Findings
  | .node _ children => children

mutual

/-- No message stands on the node or below it. -/
def isEmpty : Findings → Bool
  | .node messages children => messages.isEmpty && allEmpty children

def allEmpty : List (String × Findings) → Bool
  | [] => true
  | (_, child) :: rest => isEmpty child && allEmpty rest

end

/-- Adds a message to the node itself. -/
def add : Findings → String → Findings
  | .node messages children, message => .node (messages ++ [message]) children

/-- The node under a route, empty if there is none. -/
def child (findings : Findings) (route : String) : Findings :=
  (findings.children.get? route).getD empty

/-- Adds a message to the node under a route. -/
def addFor (findings : Findings) (route message : String) : Findings :=
  .node findings.messages (findings.children.insert route ((findings.child route).add message))

mutual

/-- Adds all messages of another tree, each at its own place. -/
def merge : Findings → Findings → Findings
  | .node messages children, .node more added => .node (messages ++ more) (mergeAll children added)

/-- Merges the nodes of another tree route by route; empty ones leave no trace. -/
def mergeAll : List (String × Findings) → List (String × Findings) → List (String × Findings)
  | children, [] => children
  | children, (route, other) :: rest =>
    mergeAll
      -- An empty tree adds no route, so every route below a node leads to a message.
      (if other.isEmpty then children
       else Dict.insert children route (merge ((Dict.get? children route).getD empty) other))
      rest

end

/-- Adds all messages of another tree below a route; an empty tree leaves no trace. -/
def mergeFor (findings : Findings) (route : String) (other : Findings) : Findings :=
  .node findings.messages (mergeAll findings.children [(route, other)])

/-- A route below a route, joined by a point. -/
def join (path route : String) : String :=
  if path.isEmpty then route else path ++ "." ++ route

mutual

/-- The messages below a path with their joined routes, a node's own before those below it. -/
def flattenFrom (path : String) : Findings → List (String × String)
  -- A node speaks before its children, and the children speak in the order of their routes.
  | .node messages children => messages.map (path, ·) ++ flattenAll path children

def flattenAll (path : String) : List (String × Findings) → List (String × String)
  | [] => []
  | (route, child) :: rest => flattenFrom (join path route) child ++ flattenAll path rest

end

/-- Every message with its route; the root's messages have an empty route. -/
def flatten (findings : Findings) : List (String × String) :=
  flattenFrom "" findings

/-- One line of a report. -/
def line (entry : String × String) : String :=
  if entry.1.isEmpty then entry.2 else entry.1 ++ ": " ++ entry.2

/-- All messages on one line. -/
def text (findings : Findings) : String :=
  String.intercalate "; " (findings.flatten.map line)

/-- Findings without any message are a success. -/
def result (findings : Findings) : Except Findings Unit :=
  if findings.isEmpty then .ok () else .error findings

end Findings

end RemoteRecords
