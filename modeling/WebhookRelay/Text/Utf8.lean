/-!
Text as UTF-8 bytes: encoding, exact decoding, and a decoding that replaces what is broken.
-/

namespace WebhookRelay.Text.Utf8

def encode (text : String) : List UInt8 :=
  text.toList.flatMap String.utf8EncodeChar

theorem encode_append (a b : String) : encode (a ++ b) = encode a ++ encode b := by
  rw [encode, String.toList_append, List.flatMap_append]
  rfl

/-- The text these bytes encode, if all of them are well formed. -/
def decode? (bytes : List UInt8) : Option String :=
  String.fromUTF8? bytes.toByteArray

theorem decode?_encode (text : String) : decode? (encode text) = some text := by
  have h : (encode text).toByteArray = text.toByteArray := by
    rw [← String.utf8Encode_toList]; rfl
  rw [decode?, h, String.fromUTF8?, dif_pos text.isValidUTF8]
  rfl

theorem encode_inj {a b : String} : encode a = encode b ↔ a = b := by
  constructor
  · intro h
    have := congrArg decode? h
    simpa [decode?_encode] using this
  · exact congrArg encode

/-- The character that a byte string starts with, if it starts with a whole one. -/
def frontChar? (bytes : List UInt8) : Option Char :=
  (bytes.take 4).toByteArray.utf8DecodeChar? 0

def isTail (b : UInt8) : Bool := 0x80 ≤ b && b ≤ 0xBF

/-- The bytes that may come second in a character whose first byte is `lead`. -/
def seconds (lead : UInt8) : UInt8 × UInt8 :=
  if lead == 0xE0 then (0xA0, 0xBF)
  else if lead == 0xED then (0x80, 0x9F)
  else if lead == 0xF0 then (0x90, 0xBF)
  else if lead == 0xF4 then (0x80, 0x8F)
  else (0x80, 0xBF)

/-- How many bytes follow `lead` in its character. -/
def tailCount (lead : UInt8) : Nat :=
  if lead < 0xC2 then 0 else if lead < 0xE0 then 1
  else if lead < 0xF0 then 2 else if lead < 0xF5 then 3 else 0

/-- How many bytes at the front, where no character stands, are replaced together: the longest
piece that some character starts with, and one byte at least. -/
def brokenLength : List UInt8 → Nat
  | [] => 1
  | [_] => 1
  | lead :: second :: rest =>
    if tailCount lead == 0 || second < (seconds lead).1 || (seconds lead).2 < second then 1
    else 2 + ((rest.take (tailCount lead - 2)).takeWhile isTail).length

theorem brokenLength_pos (bytes : List UInt8) : 0 < brokenLength bytes := by
  fun_cases brokenLength bytes <;> omega

def lossyChars (found : List Char) (bytes : List UInt8) : List Char :=
  match bytes with
  | [] => found.reverse
  | b :: rest =>
    match frontChar? (b :: rest) with
    | some c => lossyChars (c :: found) ((b :: rest).drop c.utf8Size)
    | none => lossyChars ('\uFFFD' :: found) ((b :: rest).drop (brokenLength (b :: rest)))
termination_by bytes.length
decreasing_by
  · have := c.utf8Size_pos
    simp only [List.length_drop, List.length_cons]; omega
  · have := brokenLength_pos (b :: rest)
    simp only [List.length_drop, List.length_cons]; omega

/-- The text of a byte string, with U+FFFD for every broken piece. -/
def decodeLossy (bytes : List UInt8) : String :=
  String.ofList (lossyChars [] bytes)

end WebhookRelay.Text.Utf8
