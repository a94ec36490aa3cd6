import RemoteRecords.Json.Basic

/-! The tokens of JSON text, read one character at a time. -/

namespace RemoteRecords

/-- A token: punctuation, a string, or a literal value. -/
inductive Token where
  | openArray
  | closeArray
  | openObject
  | closeObject
  | comma
  | colon
  | text (content : String)
  | literal (value : Json)
deriving Repr

namespace Token

/-- Where a reader of characters stands; characters of an open token are held in reverse. -/
inductive Mode where
  | between
  /-- Inside a word: a number, `true`, `false` or `null`. -/
  | word (held : List Char)
  /-- Inside a string. -/
  | text (held : List Char)
  /-- After a backslash. -/
  | escape (held : List Char)
  /-- Inside `\u` with hexadecimal digits to come, after a high surrogate or not. -/
  | unit (held : List Char) (high : Option Nat) (missing : Nat) (value : Nat)
  /-- After a high surrogate: a backslash has to follow. -/
  | lowBackslash (held : List Char) (high : Nat)
  /-- After a high surrogate and a backslash: a `u` has to follow. -/
  | lowMark (held : List Char) (high : Nat)

/-- The white space between tokens. -/
def isBlank (c : Char) : Bool :=
  c == ' ' || c == '\t' || c == '\n' || c == '\r'

def punctuation? : Char → Option Token
  | '[' => some .openArray
  | ']' => some .closeArray
  | '{' => some .openObject
  | '}' => some .closeObject
  | ',' => some .comma
  | ':' => some .colon
  | _ => none

/-- The value that a word writes. -/
def ofWord? (word : List Char) : Option Json :=
  if word = ['t', 'r', 'u', 'e'] then some (.bool true)
  else if word = ['f', 'a', 'l', 's', 'e'] then some (.bool false)
  else if word = ['n', 'u', 'l', 'l'] then some .null
  -- Any other word has to be a number.
  else do
    let literal ← Literal.ofChars? word
    let number ← literal.number
    pure (.number number)

def hexValue? (c : Char) : Option Nat :=
  if '0' ≤ c ∧ c ≤ '9' then some (c.toNat - 48)
  else if 'a' ≤ c ∧ c ≤ 'f' then some (c.toNat - 87)
  else if 'A' ≤ c ∧ c ≤ 'F' then some (c.toNat - 55)
  else none

/-- The character that a short escape writes. -/
def shortEscape? : Char → Option Char
  | '"' => some '"'
  | '\\' => some '\\'
  | '/' => some '/'
  | 'b' => some '\x08'
  | 'f' => some '\x0c'
  | 'n' => some '\n'
  | 'r' => some '\r'
  | 't' => some '\t'
  | _ => none

/-- The mode after a complete code unit: surrogates have to come in pairs, high before low. -/
def afterUnit (held : List Char) (high : Option Nat) (value : Nat) : Option Mode :=
  match high with
  | none =>
    -- A high surrogate waits for its partner, and a low one cannot come first.
    if 0xD800 ≤ value ∧ value ≤ 0xDBFF then some (.lowBackslash held value)
    else if 0xDC00 ≤ value ∧ value ≤ 0xDFFF then none
    else some (.text (Char.ofNat value :: held))
  | some high =>
    -- Both halves together name one character.
    if 0xDC00 ≤ value ∧ value ≤ 0xDFFF then
      some (.text (Char.ofNat (0x10000 + (high - 0xD800) * 0x400 + (value - 0xDC00)) :: held))
    else none

/-- Reads a character that stands outside all tokens. -/
def start (c : Char) : List Token × Mode :=
  if isBlank c then ([], .between)
  else if c == '"' then ([], .text [])
  -- Whatever else begins here is a word, which is judged where it ends.
  else match punctuation? c with
    | some token => ([token], .between)
    | none => ([], .word [c])

/-- Reads one character: the tokens that it completes, newest first, and the next mode. -/
def step : Mode → Char → Option (List Token × Mode)
  | .between, c => some (start c)
  | .word held, c =>
    -- The character that ends a word is itself read outside of all tokens.
    if isBlank c || c == '"' || (punctuation? c).isSome then do
      let value ← ofWord? held.reverse
      let (tokens, mode) := start c
      pure (tokens ++ [.literal value], mode)
    else some ([], .word (c :: held))
  | .text held, c =>
    if c == '"' then some ([.text (String.ofList held.reverse)], .between)
    else if c == '\\' then some ([], .escape held)
    else if c.toNat < 0x20 then none
    else some ([], .text (c :: held))
  | .escape held, c =>
    if c == 'u' then some ([], .unit held none 4 0)
    else (shortEscape? c).map fun written => ([], .text (written :: held))
  | .unit held high missing value, c => do
    let digit ← hexValue? c
    let value := value * 16 + digit
    -- The fourth digit completes the unit.
    if missing ≤ 1 then
      let mode ← afterUnit held high value
      pure ([], mode)
    else pure ([], .unit held high (missing - 1) value)
  | .lowBackslash held high, c => if c == '\\' then some ([], .lowMark held high) else none
  | .lowMark held high, c => if c == 'u' then some ([], .unit held (some high) 4 0) else none

/-- Closes the last token at the end of the text. -/
def finish : Mode → Option (List Token)
  | .between => some []
  | .word held => (ofWord? held.reverse).map fun value => [.literal value]
  -- A text cannot end inside a string or an escape.
  | _ => none

/-- The tokens of the characters after a mode; tokens already read are held newest first. -/
def scan (tokens : List Token) (mode : Mode) : List Char → Option (List Token)
  | [] => (finish mode).map fun last => (last ++ tokens).reverse
  | c :: rest =>
    match step mode c with
    | none => none
    | some (more, next) => scan (more ++ tokens) next rest

/-- The tokens of a text. -/
def ofText? (text : String) : Option (List Token) :=
  scan [] .between text.toList

end Token

end RemoteRecords
