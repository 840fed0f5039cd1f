import WebhookRelay.Payload.Shape
import WebhookRelay.Provider

/-!
Reading the name of a provider from a JSON text, where it is a string or the only key of an object
with the value null.
-/

namespace WebhookRelay.Provider

open Payload

namespace Reading

def named (node : Node) : Except Fault Provider :=
  match node.found with
  | .ok (.text name) =>
    match ofTag? name with
    | some provider => .ok provider
    | none => .error (.unknownName name (tags.map Prod.fst))
  | _ => .error (node.mismatch "variant identifier")

/-- What follows a mark, which blanks may stand before. -/
def after (mark : Char) (other : Fault) (text : Spelling) : Except Fault Spelling :=
  match text.dropWhile isBlank with
  | [] => .error .unfinishedObject
  | b :: rest => if is mark b then .ok rest else .error other

def keyed (text : Spelling) : Except Fault (Provider × Spelling) := do
  let (key, rest) := scan text
  let provider ← named key
  let (value, rest) := scan (← after ':' .noColon rest)
  match value with
  | .null => return (provider, ← after '\x7d' .noValue rest)
  | value => throw (value.mismatch "unit")

/-- The provider that is named first, and what follows. -/
def lead (text : Spelling) : Except Fault (Provider × Spelling) :=
  match text.dropWhile isBlank with
  | [] => .error .unfinishedValue
  | b :: rest =>
    if is '"' b then do
      let (node, rest) := scan (b :: rest)
      return (← named node, rest)
    else if is '\x7b' b then keyed rest
    else .error .noValue

end Reading

/-- The provider that a whole text names. -/
def ofJson (text : Spelling) : Except Fault Provider := do
  let (provider, rest) ← Reading.lead text
  if rest.all isBlank then return provider else .error .trailingText

end WebhookRelay.Provider
