import RemoteRecords.Rest.Reply

/-! Replies: text that reads as a value is never taken for no body, and a status of failure has its own
error, whatever the body. -/

namespace RemoteRecords

/-- The characters that are written by the bytes of ASCII white space. -/
def isBlankChar (c : Char) : Bool :=
  c == ' ' || c == '\t' || c == '\n' || c == '\x0c' || c == '\r'

namespace Token

/-- A word that begins with a form feed is no value. -/
theorem ofWord?_of_formFeed (rest : List Char) : ofWord? ('\x0c' :: rest) = none := by
  -- It is no word of letters, and it does not begin with a digit.
  have digits : Literal.readWhole ('\x0c' :: rest) = none := by
    simp [Literal.readWhole, Literal.digits, Char.isDigit]
  simp [ofWord?, Literal.ofChars?, digits]

/-- White space inside a word of form feeds ends in a fault or in a longer word of form feeds. -/
theorem scan_word_of_blank {text : List Char} (blank : ∀ c ∈ text, isBlankChar c = true)
    (tokens : List Token) (held : List Char) :
    scan tokens (.word (held ++ ['\x0c'])) text = none := by
  -- The induction is on the text, with any word of form feeds begun before it.
  induction text generalizing held with
  | nil => simp [scan, finish, ofWord?_of_formFeed]
  | cons c rest ih =>
    have others := ih fun d listed => blank d (List.mem_cons_of_mem _ listed)
    by_cases feed : c = '\x0c'
    · subst feed
      simpa [scan, step, isBlank, punctuation?] using others ('\x0c' :: held)
    · -- Any other white space ends the word, which is then no value.
      have ends : isBlank c = true := by
        have listed := blank c List.mem_cons_self
        simp only [isBlankChar, beq_eq_false_iff_ne.mpr feed, Bool.or_false] at listed
        simpa [isBlank] using listed
      simp [scan, step, ends, ofWord?_of_formFeed]

/-- White space has no tokens, unless it is at fault. -/
theorem scan_of_blank {text : List Char} (blank : ∀ c ∈ text, isBlankChar c = true) :
    scan [] .between text = none ∨ scan [] .between text = some [] := by
  -- The induction is on the text, whose white space is skipped up to the first form feed.
  induction text with
  | nil => exact .inr rfl
  | cons c rest ih =>
    have others : ∀ d ∈ rest, isBlankChar d = true := fun d listed =>
      blank d (List.mem_cons_of_mem _ listed)
    by_cases feed : c = '\x0c'
    · -- A form feed is no white space between tokens, so it begins a word.
      subst feed
      exact .inl (by simpa [scan, step, start, isBlank, punctuation?] using
        scan_word_of_blank others [] [])
    · have skipped : isBlank c = true := by
        have listed := blank c List.mem_cons_self
        simp only [isBlankChar, beq_eq_false_iff_ne.mpr feed, Bool.or_false] at listed
        simpa [isBlank] using listed
      simpa [scan, step, start, skipped] using ih others

end Token

namespace Json

/-- White space is no value. -/
theorem parse_of_blank {text : String} (blank : ∀ c ∈ text.toList, isBlankChar c = true) :
    parse text = none := by
  -- There is no token at all, or a fault before the first one.
  unfold parse Token.ofText?
  rcases Token.scan_of_blank blank with fault | nothing
  · rw [fault]
    rfl
  · rw [nothing]
    rfl

end Json

/-- A listing of bytes goes on with those that are still to be listed. -/
theorem toList_loop_eq (bytes : ByteArray) (place : Nat) (listed : List UInt8) :
    ByteArray.toList.loop bytes place listed =
      listed.reverse ++ bytes.data.toList.drop place := by
  -- The induction is that of the loop, which lists the bytes one by one and turns them round.
  fun_induction ByteArray.toList.loop bytes place listed with
  | case1 place listed inside ih =>
    have within : place < bytes.data.toList.length := by simpa using inside
    rw [ih, List.drop_eq_getElem_cons within, List.reverse_cons, List.append_assoc]
    simp [ByteArray.get!, inside]
  | case2 place listed outside =>
    have beyond : bytes.data.toList.length ≤ place := by simpa using outside
    rw [List.drop_eq_nil_of_le beyond, List.append_nil]

/-- Bytes are those that are listed. -/
theorem toArray_toList (bytes : ByteArray) : ⟨bytes.toList.toArray⟩ = bytes := by
  -- From the first place on nothing is left out.
  rw [ByteArray.toList, toList_loop_eq]
  rfl

/-- The bytes of a text are those of its characters. -/
theorem toList_toByteArray (text : String) :
    text.toByteArray.toList = text.toList.flatMap String.utf8EncodeChar := by
  -- A text is the encoding of its characters, one after the other.
  rw [← String.utf8Encode_toList, ByteArray.toList, toList_loop_eq, List.utf8Encode]
  simp

/-- A byte of white space is small and stands for itself. -/
theorem isBlankByte_iff (byte : UInt8) :
    isBlankByte byte = true ↔
      byte.toNat = 32 ∨ byte.toNat = 9 ∨ byte.toNat = 10 ∨ byte.toNat = 12 ∨ byte.toNat = 13 := by
  -- Bytes are the same if their numbers are.
  simp [isBlankByte, ← UInt8.toNat_inj, or_assoc]

/-- A character is white space if all of its bytes are. -/
theorem isBlankChar_of_bytes {c : Char}
    (blank : ∀ byte ∈ String.utf8EncodeChar c, isBlankByte byte = true) : isBlankChar c = true := by
  -- The first byte of a longer encoding is larger than any white space.
  unfold String.utf8EncodeChar at blank
  simp only at blank
  split at blank
  · -- The only byte is the character's code.
    rename_i small
    have byte := (isBlankByte_iff _).mp (blank _ List.mem_cons_self)
    have code : c.toNat = c.val.toNat := rfl
    simp only [UInt8.toNat_ofNat'] at byte
    simp only [isBlankChar, Bool.or_eq_true, beq_iff_eq, ← Char.toNat_inj]
    simp only [Char.reduceToNat]
    omega
  · split at blank
    · have byte := (isBlankByte_iff _).mp (blank _ List.mem_cons_self)
      simp only [UInt8.toNat_ofNat'] at byte
      omega
    · split at blank
      · have byte := (isBlankByte_iff _).mp (blank _ List.mem_cons_self)
        simp only [UInt8.toNat_ofNat'] at byte
        omega
      · have byte := (isBlankByte_iff _).mp (blank _ List.mem_cons_self)
        simp only [UInt8.toNat_ofNat'] at byte
        omega

/-- Text that reads as a value is not blank. -/
theorem isBlank_eq_false_of_parseBytes {body : ByteArray} {value : Json}
    (read : Json.parseBytes body = some value) (status : UInt16) :
    Response.isBlank ⟨status, body⟩ = false := by
  obtain ⟨text, decoded, parsed⟩ := Option.bind_eq_some_iff.mp read
  -- The text is made of the bytes of the body.
  have bytes : text.toByteArray = body := by
    unfold String.fromUTF8? at decoded
    split at decoded
    · cases decoded
      rfl
    · cases decoded
  rw [Response.isBlank, Bool.eq_false_iff]
  intro blank
  rw [← bytes, toList_toByteArray, List.all_eq_true] at blank
  -- If all bytes were white space, the text would be, and would have no value.
  have characters : ∀ c ∈ text.toList, isBlankChar c = true := fun c listed =>
    isBlankChar_of_bytes fun byte held => blank byte (List.mem_flatMap.mpr ⟨c, listed, held⟩)
  rw [Json.parse_of_blank characters] at parsed
  cases parsed

/-- The bytes of a text are the text again. -/
theorem fromUTF8?_toUTF8 (text : String) : String.fromUTF8? text.toUTF8 = some text := by
  -- The bytes of a text are valid, so they are not refused.
  rw [String.toUTF8_eq_toByteArray, String.fromUTF8?, dif_pos text.isValidUTF8]
  rfl

/-- The bytes of a text are read as the text is. -/
theorem Json.parseBytes_toUTF8 (text : String) : parseBytes text.toUTF8 = parse text := by
  -- Bytes are read as a text first, which is the text that they came from.
  rw [parseBytes, fromUTF8?_toUTF8, Option.bind_some]

namespace Reply

/-- A response whose body reads as a value is a reply with that value. -/
theorem ofResponse_of_parseBytes {body : ByteArray} {value : Json}
    (read : Json.parseBytes body = some value) (status : UInt16) :
    ofResponse ⟨status, body⟩ = .ok ⟨status, some value⟩ := by
  -- The body is not blank, so it is read, and it has a value.
  simp only [ofResponse, isBlank_eq_false_of_parseBytes read, read]
  rfl

/-- A response without a body is a reply without one. -/
theorem ofResponse_empty (status : UInt16) : ofResponse ⟨status, .empty⟩ = .ok ⟨status, none⟩ := by
  -- Without any bytes the body is blank.
  simp [ofResponse, Response.isBlank]

/-- A response that failed is a reply of its status, with as much of a body as can be read. -/
theorem ofResponse_of_failed {response : Response} (failed : isSuccess response.status = false) :
    ofResponse response = .ok ⟨response.status, Json.parseBytes response.body⟩ := by
  -- Only a response of success has to have a body that can be read.
  unfold ofResponse
  cases read : Json.parseBytes response.body with
  | none => simp [failed]
  | some value => simp [isBlank_eq_false_of_parseBytes read response.status]

/-- A response of success whose body is neither blank nor a value is no reply. -/
theorem ofResponse_of_illegible {response : Response} (successful : isSuccess response.status = true)
    (filled : response.isBlank = false) (illegible : Json.parseBytes response.body = none) :
    ofResponse response = .error .notJson := by
  -- The body is read, since it is not blank, and it has no value.
  simp [ofResponse, filled, illegible, successful]

end Reply

/-- The entries of the server in a body, if there is one. -/
def ServerError.inBody (body : Option Json) : List ServerError :=
  (body.map listOf).getD []

/-- The error of a request that failed, by its status. It names the record that was asked for by itself
if there is one, and it holds the entries of the server where it has a place for them. -/
def Error.ofStatus (sought : Option String) (status : UInt16) (entries : List ServerError) : Error :=
  if status = 401 then .unauthorized entries
  else match sought with
    | some record => if status = 404 then .recordNotFound record else .remoteRequest status entries
    | none => .remoteRequest status entries

namespace Reply

/-- A reply that failed has the error of its status. -/
theorem content_of_failed {reply : Reply} (failed : isSuccess reply.status = false)
    (missing : Option String) :
    reply.content missing =
      .error (.ofStatus missing reply.status (ServerError.inBody reply.body)) := by
  simp only [content, failed, Bool.false_eq_true, if_false, Error.ofStatus, ServerError.inBody]
  -- Both sides decide in the same order.
  split
  · rfl
  · cases missing with
    | none => rfl
    | some record =>
      simp only
      split <;> rfl

end Reply

end RemoteRecords
