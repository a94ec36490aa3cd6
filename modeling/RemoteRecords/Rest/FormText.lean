/-! Form encoding: bytes of UTF-8 text as unreserved characters and percent escapes. -/

namespace RemoteRecords.FormText

/-- The characters that stand for themselves. -/
def isUnreserved (byte : UInt8) : Bool :=
  let c := Char.ofNat byte.toNat
  c.isAlphanum || c == '*' || c == '-' || c == '.' || c == '_'

/-- A hexadecimal digit in upper case. -/
def hexDigit (value : Nat) : Char :=
  (Nat.digitChar value).toUpper

/-- A byte as a percent sign and two digits. -/
def escape (byte : UInt8) : List Char :=
  ['%', hexDigit (byte.toNat / 16), hexDigit (byte.toNat % 16)]

/-- A byte, given the form of a blank. -/
def encodeByte (blank : List Char) (byte : UInt8) : List Char :=
  -- The form of a blank is the only thing in which segments and parameters differ.
  if byte == 0x20 then blank
  else if isUnreserved byte then [Char.ofNat byte.toNat]
  else escape byte

def encodeWith (blank : List Char) (text : String) : String :=
  String.ofList (text.toUTF8.toList.flatMap (encodeByte blank))

/-- A text in a query string, where a plus sign stands for a blank. -/
def encode (text : String) : String :=
  encodeWith ['+'] text

/-- A text as a segment of a path, where a plus sign would stand for itself. -/
def segment (text : String) : String :=
  encodeWith ['%', '2', '0'] text

/-- A parameter of a query string. -/
def pair (key value : String) : String :=
  encode key ++ "=" ++ encode value

end RemoteRecords.FormText
