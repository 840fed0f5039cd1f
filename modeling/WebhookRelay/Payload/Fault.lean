import WebhookRelay.Decimal.Float
import WebhookRelay.Text.Quoted
import WebhookRelay.Timestamp.Reading
import WebhookRelay.Url.Host

/-!
What can be wrong with a payload, and how it is said.
-/

namespace WebhookRelay.Payload

/-- What stands in a payload where something else is wanted. -/
inductive Found where
  | null
  | flag (b : Bool)
  | integer (n : Int)
  | real (x : Float)
  | text (s : String)
  | list
  | object
  deriving Repr

def Found.message : Found → String
  | null => "null"
  | flag b => "boolean `" ++ toString b ++ "`"
  | integer n => "integer `" ++ toString n ++ "`"
  | real x => "floating point `" ++ Decimal.ofFloat x ++ "`"
  | text s => "string " ++ Text.quoted s
  | list => "sequence"
  | object => "map"

inductive Fault where
  | unfinishedValue
  | unfinishedList
  | unfinishedObject
  | unfinishedText
  | noValue
  | noWord
  | noColon
  | noListMark
  | noObjectMark
  | keyNotText
  | trailingComma
  | trailingText
  | badNumber
  | numberTooLarge
  | badEscape
  | loneSurrogate
  | brokenPair
  | controlCharacter
  | notUnicode
  | mismatch (found : Found) (wanted : String)
  | outOfRange (n : Int) (wanted : String)
  | shortList (length : Nat) (record : String) (size : Nat)
  | missing (field : String)
  | duplicate (field : String)
  | badTime (fault : Timestamp.Fault)
  | badLink (fault : Url.Fault) (text : String)
  | unknownName (name : String) (known : List String)
  /-- The payload is sound, but an event needs a part that may be left out. -/
  | lacks (whole part : String)
  deriving Repr

private def ticked (s : String) : String := "`" ++ s ++ "`"

def Fault.message : Fault → String
  | unfinishedValue => "EOF while parsing a value"
  | unfinishedList => "EOF while parsing a list"
  | unfinishedObject => "EOF while parsing an object"
  | unfinishedText => "EOF while parsing a string"
  | noValue => "expected value"
  | noWord => "expected ident"
  | noColon => "expected `:`"
  | noListMark => "expected `,` or `]`"
  | noObjectMark => "expected `,` or `\x7d`"
  | keyNotText => "key must be a string"
  | trailingComma => "trailing comma"
  | trailingText => "trailing characters"
  | badNumber => "invalid number"
  | numberTooLarge => "number out of range"
  | badEscape => "invalid escape"
  | loneSurrogate => "lone leading surrogate in hex escape"
  | brokenPair => "unexpected end of hex escape"
  | controlCharacter => "control character (\\u0000-\\u001F) found while parsing a string"
  | notUnicode => "invalid unicode code point"
  | mismatch found wanted => "invalid type: " ++ found.message ++ ", expected " ++ wanted
  | outOfRange n wanted => "invalid value: integer " ++ ticked (toString n) ++ ", expected " ++ wanted
  | shortList length record size =>
    "invalid length " ++ toString length ++ ", expected struct " ++ record ++ " with " ++
      toString size ++ if size == 1 then " element" else " elements"
  | missing field => "missing field " ++ ticked field
  | duplicate field => "duplicate field " ++ ticked field
  | badTime fault => fault.message
  | badLink fault text => fault.message ++ ": " ++ Text.quoted text
  | unknownName name known =>
    "unknown variant " ++ ticked name ++ ", expected one of " ++ ", ".intercalate (known.map ticked)
  | lacks whole part => whole ++ " without " ++ part

end WebhookRelay.Payload
