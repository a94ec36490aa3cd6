import RemoteRecords.Rest.FormText

/-! Request paths, relative to the root of the data service. -/

namespace RemoteRecords

/-- The paths of one API version. -/
structure Paths where
  /-- The first segment of every path. -/
  root : String
deriving DecidableEq, Repr

namespace Paths

/-- The paths of an API version, written with any number of leading `v`s. -/
def ofVersion (version : String) : Paths :=
  -- Versions with and without the letter lead to the same paths.
  ⟨"v" ++ String.ofList (version.toList.dropWhile (· == 'v'))⟩

/-- All records of a type. -/
def records (paths : Paths) (typeName : String) : String :=
  paths.root ++ "/sobjects/" ++ typeName

/-- One record, by its identifier. -/
def record (paths : Paths) (typeName id : String) : String :=
  paths.records typeName ++ "/" ++ FormText.segment id

/-- One record, by the value of another key. -/
def external (paths : Paths) (typeName field value : String) : String :=
  paths.records typeName ++ "/" ++ field ++ "/" ++ FormText.segment value

def query (paths : Paths) (text : String) : String :=
  paths.root ++ "/query?" ++ FormText.pair "q" text

/-- A query that takes in deleted records. -/
def queryAll (paths : Paths) (text : String) : String :=
  paths.root ++ "/queryAll?" ++ FormText.pair "q" text

def batch (paths : Paths) : String :=
  paths.root ++ "/composite/batch"

/-- A path with a parameter. -/
def withParam (path key value : String) : String :=
  path ++ "?" ++ FormText.pair key value

/-- The start of links that the server writes. -/
def dataRoot : String := "/services/data/"

/-- The rest of a text after a start that it has. -/
def dropStart? (start text : List Char) : Option (List Char) :=
  if start.isPrefixOf text then some (text.drop start.length) else none

/-- A link of the server as a path: without the root of the data service, or else without a leading
slash. -/
def relative (link : String) : String :=
  let text := link.toList
  String.ofList
    -- A full link loses its root, a short one only its slash.
    (((dropStart? dataRoot.toList text).orElse fun _ => dropStart? ['/'] text).getD text)

end Paths

end RemoteRecords
