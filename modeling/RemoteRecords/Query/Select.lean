/-! Select lists: the items that a wildcard stands for, and their text. -/

namespace RemoteRecords

/-- An item of a select list. -/
inductive SelectItem where
  /-- A field, reached by a dotted path. -/
  | path (text : String)
  /-- The fields of a polymorphic relationship by the type that it holds, with those for all other
  types if any. -/
  | typeOf (field : String) (branches : List (String × List SelectItem)) (others : List SelectItem)
  /-- The child records of a relationship. -/
  | subquery (items : List SelectItem) (relation : String)
deriving Repr, Inhabited

namespace SelectItem

mutual

def text : SelectItem → String
  | .path text => text
  | .typeOf field branches others =>
    -- An alternative without items for other types has no last branch.
    let last := if others.isEmpty then [] else ["ELSE " ++ String.intercalate "," (texts others)]
    "TYPEOF " ++ field ++ " " ++ String.intercalate " " (branchTexts branches ++ last) ++ " END"
  | .subquery items relation =>
    "(SELECT " ++ String.intercalate "," (texts items) ++ " FROM " ++ relation ++ ")"

def texts : List SelectItem → List String
  | [] => []
  | item :: rest => text item :: texts rest

def branchTexts : List (String × List SelectItem) → List String
  | [] => []
  | (name, items) :: rest =>
    ("WHEN " ++ name ++ " THEN " ++ String.intercalate "," (texts items)) :: branchTexts rest

end

/-- A select list, separated by commas. -/
def listText (items : List SelectItem) : String :=
  String.intercalate "," (texts items)

end SelectItem

end RemoteRecords
