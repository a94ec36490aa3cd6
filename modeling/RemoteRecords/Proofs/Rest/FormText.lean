import RemoteRecords.Proofs.Letters
import RemoteRecords.Proofs.Rest.Reply
import RemoteRecords.Rest.FormText

/-! Form text: what is written is read back, and it holds none of the characters that cut up paths. -/

namespace RemoteRecords.FormText

/-- The value of a hexadecimal digit, in either case. -/
def hexValue? (c : Char) : Option Nat :=
  if '0' ≤ c ∧ c ≤ '9' then some (c.toNat - '0'.toNat)
  else if 'A' ≤ c ∧ c ≤ 'F' then some (c.toNat - 'A'.toNat + 10)
  else if 'a' ≤ c ∧ c ≤ 'f' then some (c.toNat - 'a'.toNat + 10)
  else none

/-- The bytes of percent-encoded text: a percent sign and two digits are a byte, and every other ASCII
character is its own. -/
def percentDecode? : List Char → Option (List UInt8)
  | [] => some []
  | '%' :: high :: low :: rest => do
    let high ← hexValue? high
    let low ← hexValue? low
    let bytes ← percentDecode? rest
    pure (UInt8.ofNat (16 * high + low) :: bytes)
  | c :: rest =>
    -- What is left of a percent sign is too short for an escape.
    if c = '%' ∨ 128 ≤ c.toNat then none
    else (percentDecode? rest).map (UInt8.ofNat c.toNat :: ·)

/-- A plus sign in a query string stands for a blank. -/
def plusToBlank (c : Char) : Char :=
  if c = '+' then ' ' else c

/-- The text of a value in a query string. -/
def formDecode? (value : List Char) : Option String := do
  let bytes ← percentDecode? (value.map plusToBlank)
  String.fromUTF8? ⟨bytes.toArray⟩

/-- Text of unreserved characters and escapes. -/
inductive Escaped : List Char → Prop where
  | nil : Escaped []
  | plain {c : Char} {rest : List Char}
      (unreserved : c.isAlphanum = true ∨ c ∈ ['*', '-', '.', '_']) (behind : Escaped rest) :
      Escaped (c :: rest)
  | escape {high low : Char} {rest : List Char} (first : (hexValue? high).isSome = true)
      (second : (hexValue? low).isSome = true) (behind : Escaped rest) :
      Escaped ('%' :: high :: low :: rest)

/-- A digit that is written has its own value. -/
theorem hexValue?_hexDigit {value : Nat} (small : value < 16) :
    hexValue? (hexDigit value) = some value := by
  -- There are sixteen digits.
  revert value
  decide

/-- An escape is read as the byte that it was written for. -/
theorem percentDecode?_escape (byte : UInt8) (rest : List Char) :
    percentDecode? (escape byte ++ rest) = (percentDecode? rest).map (byte :: ·) := by
  -- The two digits are the quotient and the remainder by sixteen, which make up the byte again.
  have bound : byte.toNat < 256 := byte.toNat_lt
  have high : byte.toNat / 16 < 16 := by omega
  have low : byte.toNat % 16 < 16 := by omega
  have whole : 16 * (byte.toNat / 16) + byte.toNat % 16 = byte.toNat := Nat.div_add_mod _ _
  simp only [escape, List.cons_append, List.nil_append, percentDecode?, hexValue?_hexDigit high,
    hexValue?_hexDigit low, Option.bind_eq_bind, Option.bind_some, whole, UInt8.ofNat_toNat]
  cases percentDecode? rest <;> rfl

/-- The character of an unreserved byte is a letter, a digit or one of four signs. -/
theorem char_of_isUnreserved {byte : UInt8} (unreserved : isUnreserved byte = true) :
    (Char.ofNat byte.toNat).isAlphanum = true ∨
      Char.ofNat byte.toNat ∈ ['*', '-', '.', '_'] := by
  -- This is the definition, with the four signs in a list.
  simpa [isUnreserved, or_assoc] using unreserved

/-- A character that needs no escape is ASCII and no percent or plus sign. -/
theorem ascii_of_unreserved {c : Char} (unreserved : c.isAlphanum = true ∨ c ∈ ['*', '-', '.', '_']) :
    c.toNat < 128 ∧ c ≠ '%' ∧ c ≠ '+' := by
  -- Letters and digits are ASCII, and the four signs are checked one by one.
  rcases unreserved with alphanumeric | sign
  · refine ⟨toNat_lt_of_isAlphanum alphanumeric, ?_, ?_⟩
    · rintro rfl
      cases alphanumeric
    · rintro rfl
      cases alphanumeric
  · simp only [List.mem_cons, List.not_mem_nil, or_false] at sign
    rcases sign with rfl | rfl | rfl | rfl <;> decide

/-- An ASCII character that is no percent sign is read as its own byte. -/
theorem percentDecode?_plain {c : Char} (ascii : c.toNat < 128) (noPercent : c ≠ '%')
    (rest : List Char) :
    percentDecode? (c :: rest) = (percentDecode? rest).map (UInt8.ofNat c.toNat :: ·) := by
  -- Of the two ways to read a character only the one without an escape is open.
  rw [percentDecode?]
  · simp [noPercent, Nat.not_le.mpr ascii]
  · exact fun _ _ _ same => absurd same noPercent

/-- A byte is the code point of its character. -/
theorem ofNat_toNat_char (byte : UInt8) :
    UInt8.ofNat (Char.ofNat byte.toNat).toNat = byte := by
  -- The code points below 256 are valid, so none of them is replaced.
  have bound : byte.toNat < 256 := byte.toNat_lt
  have valid : byte.toNat.isValidChar := .inl (by omega)
  have same : (Char.ofNat byte.toNat).toNat = byte.toNat := by
    rw [Char.ofNat, dif_pos valid]
    rfl
  rw [same, UInt8.ofNat_toNat]

/-- A byte of a segment is read as itself. -/
theorem percentDecode?_encodeByte (byte : UInt8) (rest : List Char) :
    percentDecode? (encodeByte ['%', '2', '0'] byte ++ rest) =
      (percentDecode? rest).map (byte :: ·) := by
  -- A byte is encoded in one of three forms, and each is read as the byte.
  unfold encodeByte
  split
  · -- The form of a blank is its escape.
    rename_i blank
    rw [beq_iff_eq.mp blank]
    exact percentDecode?_escape 0x20 rest
  · split
    · -- An unreserved byte stands for itself.
      rename_i unreserved
      obtain ⟨ascii, noPercent, -⟩ := ascii_of_unreserved (char_of_isUnreserved unreserved)
      rw [List.singleton_append, percentDecode?_plain ascii noPercent, ofNat_toNat_char]
    · exact percentDecode?_escape byte rest

/-- The characters of a segment are unreserved or belong to escapes. -/
theorem escaped_encodeByte (byte : UInt8) {rest : List Char} (behind : Escaped rest) :
    Escaped (encodeByte ['%', '2', '0'] byte ++ rest) := by
  -- A byte is encoded in one of three forms, and two of them are escapes.
  have bound : byte.toNat < 256 := byte.toNat_lt
  have digit : ∀ {value : Nat}, value < 16 → (hexValue? (hexDigit value)).isSome = true := by
    intro value small
    rw [hexValue?_hexDigit small]
    rfl
  unfold encodeByte
  split
  · exact .escape rfl rfl behind
  · split
    · rename_i unreserved
      exact .plain (char_of_isUnreserved unreserved) behind
    · exact .escape (digit (by omega)) (digit (by omega)) behind

/-- A segment is unreserved characters and escapes, which are read as the bytes of the text. -/
theorem segment_spec (text : String) :
    Escaped (segment text).toList ∧
      percentDecode? (segment text).toList = some text.toUTF8.toList := by
  -- The induction is on the bytes of the text, each of which is read by itself.
  rw [segment, encodeWith, String.toList_ofList]
  generalize text.toUTF8.toList = bytes
  induction bytes with
  | nil => exact ⟨.nil, rfl⟩
  | cons byte rest ih =>
    rw [List.flatMap_cons]
    refine ⟨escaped_encodeByte byte ih.1, ?_⟩
    rw [percentDecode?_encodeByte, ih.2]
    rfl

/-- The two digits of an escape are letters or digits. -/
theorem isAlphanum_escape (byte : UInt8) :
    (hexDigit (byte.toNat / 16)).isAlphanum = true ∧
      (hexDigit (byte.toNat % 16)).isAlphanum = true := by
  -- There are sixteen digits, all of them letters or digits.
  have bound : byte.toNat < 256 := byte.toNat_lt
  have digit : ∀ value < 16, (hexDigit value).isAlphanum = true := by decide
  exact ⟨digit _ (by omega), digit _ (by omega)⟩

/-- Whatever stands for a blank, all else is unreserved characters and escapes. -/
theorem mem_encodeByte {blank : List Char} {byte : UInt8} {c : Char}
    (listed : c ∈ encodeByte blank byte) :
    c ∈ blank ∨ c.isAlphanum = true ∨ c ∈ ['*', '-', '.', '_', '%'] := by
  -- A byte is encoded in one of three forms.
  unfold encodeByte at listed
  split at listed
  · exact .inl listed
  · split at listed
    · rename_i unreserved
      rw [List.mem_singleton.mp listed]
      exact .inr ((char_of_isUnreserved unreserved).imp_right (List.mem_append_left ['%']))
    · -- An escape is a percent sign and two digits.
      simp only [escape, List.mem_cons, List.not_mem_nil, or_false] at listed
      rcases listed with rfl | rfl | rfl
      · simp
      · exact .inr (.inl (isAlphanum_escape byte).1)
      · exact .inr (.inl (isAlphanum_escape byte).2)

/-- Encoded text holds no other characters than these. -/
theorem mem_encodeWith {blank : List Char} {text : String} {c : Char}
    (listed : c ∈ (encodeWith blank text).toList) :
    c ∈ blank ∨ c.isAlphanum = true ∨ c ∈ ['*', '-', '.', '_', '%'] := by
  -- Each character belongs to the form of one byte.
  rw [encodeWith, String.toList_ofList] at listed
  obtain ⟨byte, -, own⟩ := List.mem_flatMap.mp listed
  exact mem_encodeByte own

/-- A segment of a path stays one. -/
theorem slash_not_mem_segment (text : String) : '/' ∉ (segment text).toList := by
  -- A slash is no character of encoded text, nor of the escape for a blank.
  intro listed
  simpa using mem_encodeWith listed

/-- A value of a query string holds none of the signs that cut up paths and parameters. -/
theorem not_mem_encode (text : String) {c : Char} (cuts : c ∈ ['/', '?', '&']) :
    c ∉ (encode text).toList := by
  -- None of the three signs is a character of encoded text or a plus sign.
  intro listed
  have allowed := mem_encodeWith listed
  simp only [List.mem_cons, List.not_mem_nil, or_false] at cuts
  rcases cuts with rfl | rfl | rfl <;> simp at allowed

/-- A byte of a value in a query string is read as itself. -/
theorem percentDecode?_map_encodeByte (byte : UInt8) (rest : List Char) :
    percentDecode? ((encodeByte ['+'] byte).map plusToBlank ++ rest) =
      (percentDecode? rest).map (byte :: ·) := by
  -- Again a byte has three forms, and a plus sign occurs only in the one of a blank.
  have kept : ∀ {c : Char}, c.isAlphanum = true ∨ c ∈ ['*', '-', '.', '_'] → plusToBlank c = c :=
    fun unreserved => if_neg (ascii_of_unreserved unreserved).2.2
  unfold encodeByte
  split
  · -- The plus sign is turned into the blank that it stands for.
    rename_i blank
    rw [beq_iff_eq.mp blank]
    exact percentDecode?_plain (by decide) (by decide) rest
  · split
    · rename_i unreserved
      have sign := char_of_isUnreserved unreserved
      obtain ⟨ascii, noPercent, -⟩ := ascii_of_unreserved sign
      rw [List.map_singleton, kept sign, List.singleton_append,
        percentDecode?_plain ascii noPercent, ofNat_toNat_char]
    · -- No digit of an escape is a plus sign.
      have same : (escape byte).map plusToBlank = escape byte := by
        simp only [escape, List.map_cons, List.map_nil, kept (.inl (isAlphanum_escape byte).1),
          kept (.inl (isAlphanum_escape byte).2)]
        rfl
      rw [same]
      exact percentDecode?_escape byte rest

/-- A value in a query string is read as the text that it was written for. -/
theorem formDecode?_encode (text : String) : formDecode? (encode text).toList = some text := by
  -- The bytes that are read are those of the text, by induction on them, and they spell the text.
  have bytes : percentDecode? ((encode text).toList.map plusToBlank) =
      some text.toUTF8.toList := by
    rw [encode, encodeWith, String.toList_ofList]
    generalize text.toUTF8.toList = bytes
    induction bytes with
    | nil => rfl
    | cons byte rest ih =>
      rw [List.flatMap_cons, List.map_append, percentDecode?_map_encodeByte, ih]
      rfl
  simp only [formDecode?, bytes, Option.bind_eq_bind, Option.bind_some, toArray_toList]
  exact fromUTF8?_toUTF8 text

/-- Texts that are encoded alike are the same. -/
theorem encode_injective {text other : String} (same : encode text = encode other) :
    text = other := by
  -- Both texts are what is read from the one encoding.
  have read := formDecode?_encode text
  rw [same, formDecode?_encode other] at read
  exact (Option.some.inj read).symm

/-- Texts that make the same segment are the same. -/
theorem segment_injective {text other : String} (same : segment text = segment other) :
    text = other := by
  -- The bytes of both texts are what is read from the one segment.
  have read := (segment_spec text).2
  rw [same, (segment_spec other).2] at read
  have bytes : (other.toUTF8 : ByteArray) = text.toUTF8 := by
    rw [← toArray_toList other.toUTF8, Option.some.inj read, toArray_toList]
  have decoded := fromUTF8?_toUTF8 text
  rw [← bytes, fromUTF8?_toUTF8 other] at decoded
  exact (Option.some.inj decoded).symm

/-- A segment is the text as it is encoded for query strings with an escape for each plus sign. None of
these signs is one of the text, whose own plus signs are escaped already. -/
theorem segment_eq_flatMap_encode (text : String) :
    (segment text).toList =
      (encode text).toList.flatMap fun c => if c = '+' then ['%', '2', '0'] else [c] := by
  -- Byte by byte the two encodings differ in the form of a blank only.
  have kept : ∀ {c : Char}, c.isAlphanum = true ∨ c ∈ ['*', '-', '.', '_'] →
      (if c = '+' then ['%', '2', '0'] else [c]) = [c] :=
    fun unreserved => if_neg (ascii_of_unreserved unreserved).2.2
  -- No other form holds a plus sign.
  have each : ∀ byte, (encodeByte ['+'] byte).flatMap
      (fun c => if c = '+' then ['%', '2', '0'] else [c]) = encodeByte ['%', '2', '0'] byte := by
    intro byte
    unfold encodeByte
    split
    · rfl
    · split
      · rename_i unreserved
        simp [kept (char_of_isUnreserved unreserved)]
      · simp [escape, kept (.inl (isAlphanum_escape byte).1),
          kept (.inl (isAlphanum_escape byte).2)]
  simp only [segment, encode, encodeWith, String.toList_ofList, List.flatMap_assoc, each]

end RemoteRecords.FormText
