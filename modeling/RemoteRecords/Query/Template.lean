/-! Query templates: wildcards before the first quote stand for field lists. -/

namespace RemoteRecords

namespace Template

/-- Splits a template at its first quote; what follows stays as it is. -/
def splitAtLiteral (template : String) : String × String :=
  let chars := template.toList
  (String.ofList (chars.takeWhile (· != '\x27')), String.ofList (chars.dropWhile (· != '\x27')))

/-- A letter or underscore, which may begin an identifier. -/
def startsWord (c : Char) : Bool :=
  c.isAlpha || c == '_'

def inWord (c : Char) : Bool :=
  c.isAlphanum || c == '_'

/-- The identifier at the start of a text, and what follows it. -/
def identifier? : List Char → Option (List Char × List Char)
  | [] => none
  | c :: rest =>
    if startsWord c then some (c :: rest.takeWhile inWord, rest.dropWhile inWord) else none

/-- An identifier takes at least one character. -/
theorem identifier?_shorter {text name rest : List Char}
    (read : identifier? text = some (name, rest)) : rest.length < text.length := by
  -- The first character belongs to the identifier, and dropping more never lengthens a text.
  cases text with
  | nil => contradiction
  | cons c more =>
    simp only [identifier?] at read
    split at read
    · cases read
      have dropped := (List.dropWhile_sublist (l := more) inWord).length_le
      simp only [List.length_cons]
      omega
    · contradiction

/-- The wildcard at the start of a text: identifiers, each followed by a point, and then a star. -/
def wildcard? : List Char → Option (List String × List Char)
  | '*' :: rest => some ([], rest)
  | text =>
    match _read : identifier? text with
    | some (name, '.' :: rest) =>
      (wildcard? rest).map fun (segments, rest) => (String.ofList name :: segments, rest)
    | _ => none
termination_by text => text.length
decreasing_by
  have shorter := identifier?_shorter _read
  simp only [List.length_cons] at shorter
  omega

/-- A wildcard takes at least one character. -/
theorem wildcard?_shorter {text : List Char} {segments : List String} {rest : List Char}
    (read : wildcard? text = some (segments, rest)) : rest.length < text.length := by
  -- A star is one character, and every segment before it takes more.
  induction text using wildcard?.induct generalizing segments rest with
  | case1 tail =>
    simp only [wildcard?, Option.some.injEq, Prod.mk.injEq] at read
    simp [← read.2]
  | case2 text notStar name tail found ih =>
    rw [wildcard?.eq_2 text notStar] at read
    split at read
    · rename_i other after again
      obtain ⟨_, rfl⟩ : name = other ∧ tail = after := by simpa [found] using again
      obtain ⟨⟨inner, left⟩, within, same⟩ := Option.map_eq_some_iff.mp read
      cases same
      -- The identifier and its point are dropped before the rest of the path is read.
      have first := identifier?_shorter found
      have second := ih within
      simp only [List.length_cons] at first
      omega
    · contradiction
  | case3 text notStar stuck =>
    rw [wildcard?.eq_2 text notStar] at read
    split at read
    · rename_i name tail found
      exact absurd found (stuck name tail)
    · contradiction

/-- A piece of a template's head. -/
inductive Piece where
  | literal (c : Char)
  /-- A wildcard with the path before its star. -/
  | wildcard (segments : List String)
deriving DecidableEq, Repr

/-- The pieces of a text. A wildcard starts as early as one can. -/
def pieces : List Char → List Piece
  | [] => []
  | c :: rest =>
    match _read : wildcard? (c :: rest) with
    | some (segments, rest) => .wildcard segments :: pieces rest
    | none => .literal c :: pieces rest
termination_by text => text.length
decreasing_by
  · have shorter := wildcard?_shorter _read
    simpa using shorter
  · simp

/-- The text of a wildcard. -/
def wildcardText (segments : List String) : String :=
  String.join (segments.map (· ++ ".")) ++ "*"

variable {m : Type → Type} [Monad m]

/-- Replaces every wildcard of the head, from left to right, and keeps all else. -/
def substitute (template : String) (expand : List String → m String) : m String := do
  -- Nothing behind the first quote is looked at.
  let (head, tail) := splitAtLiteral template
  let texts ← (pieces head.toList).mapM fun
    | .literal c => pure (String.singleton c)
    | .wildcard segments => expand segments
  pure (String.join texts ++ tail)

end Template

end RemoteRecords
