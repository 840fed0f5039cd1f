import WebhookRelay.Json.Value
import WebhookRelay.Payload.Spelling

/-!
Reading JSON documents from their texts, and looking into them. Numbers are integers of any size.
-/

namespace WebhookRelay.Json

open Payload

def natural? (digits : List Char) : Option Nat :=
  if digits.all Char.isDigit && !digits.isEmpty then some (Nat.ofDigitChars 10 digits 0) else none

/-- The integer that a number is written as, without a fraction and an exponent. -/
def integer? (spelling : Spelling) : Option Int :=
  match spelling.map fun b => Char.ofNat b.toNat with
  | '-' :: digits => (natural? digits).map fun n => -Int.ofNat n
  | digits => (natural? digits).map Int.ofNat

mutual

/-- The document that a sound node stands for. -/
def Value.ofNode? : Node → Option Value
  | .null => some .null
  | .flag b => some (.bool b)
  | .number spelling => (integer? spelling).map .num
  | .text spelling => spelling.decode.toOption.map .str
  | .list items .closed => (itemsOfNodes? items).map .arr
  | .object members .closed => (membersOfNodes? members).map .obj
  | _ => none

def itemsOfNodes? : List Node → Option (List Value)
  | [] => some []
  | node :: rest => do return (← Value.ofNode? node) :: (← itemsOfNodes? rest)

def membersOfNodes? : List (Spelling × Node) → Option (List (String × Value))
  | [] => some []
  | (key, node) :: rest => do
    return (← key.decode.toOption, ← Value.ofNode? node) :: (← membersOfNodes? rest)

end

/-- The document of a whole text. -/
def Value.ofText? (text : String) : Option Value :=
  let (node, rest) := scan (Text.Utf8.encode text)
  if rest.all isBlank then ofNode? node else none

namespace Value

/-- The value of the one member of this name. -/
def member? (name : String) : Value → Option Value
  | .obj members =>
    match members.filter (·.1 == name) with
    | [(_, v)] => some v
    | _ => none
  | _ => none

def str? : Value → Option String
  | .str s => some s
  | _ => none

def bool? : Value → Option Bool
  | .bool b => some b
  | _ => none

def nat? : Value → Option Nat
  | .num (.ofNat n) => some n
  | _ => none

def items? {α : Type} (read : Value → Option α) : Value → Option (List α)
  | .arr items => items.mapM read
  | _ => none

/-- Null is no value. -/
def orNull? {α : Type} (read : Value → Option α) : Value → Option (Option α)
  | .null => some none
  | v => (read v).map some

/-- What is read of the member of this name. -/
def field? {α : Type} (read : Value → Option α) (name : String) (v : Value) : Option α :=
  (v.member? name).bind read

end Value

end WebhookRelay.Json
