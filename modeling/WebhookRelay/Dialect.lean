import WebhookRelay.Event
import WebhookRelay.Payload.Shape
import WebhookRelay.Signature

/-!
What the webhooks of one provider look like: the header that names the event, the headers that
prove it authentic, and the reading of its payloads.
-/

namespace WebhookRelay

/-- Why a payload is no event. -/
inductive DecodeError where
  /-- The event, or a kind inside its payload, is none that is handled. -/
  | unknownEvent (name : String)
  | malformed (fault : Payload.Fault)
  deriving Repr

def DecodeError.message : DecodeError → String
  | unknownEvent name => "unknown webhook event `" ++ name ++ "`"
  | malformed fault => "malformed webhook payload: " ++ fault.message

/-- An event, with the secret that its payload carries. -/
structure Decoded where
  event : Event
  secret : Option String := none
  deriving DecidableEq, Repr

structure Dialect where
  eventHeader : String
  /-- Of these headers the first that is present counts. -/
  signatures : List SignatureHeader
  /-- Reads the payload of a named event. -/
  decode : (event : String) → (body : List UInt8) → Except DecodeError Decoded

namespace Dialect

/-- The text, unless it is empty. -/
def given? (text : Option String) : Option String := text.filter (!·.isEmpty)

def firstGiven (text other : String) : String := if text.isEmpty then other else text

/-- Reads a payload by a shape, and then as an event. -/
def decodeAs {α : Type} (shape : Payload.Shape α) (convert : α → Except DecodeError Event)
    (body : List UInt8) : Except DecodeError Event := do
  convert (← (shape.parse body).mapError .malformed)

/-- The commit that a push ends at: the earliest listed one with the hash `target`, else `other`. -/
def headCommit (target : String) (other : Commit) (commits : List Commit) : Commit :=
  (commits.find? (·.sha == target)).getD other

/-- A reference without the directory of branches or tags. -/
def shortRef (ref : String) : String :=
  let branch := Text.stripLead? "refs/heads/".toList ref.toList
  let tag := Text.stripLead? "refs/tags/".toList ref.toList
  ((branch <|> tag).map String.ofList).getD ref

/-- Where the head of a pull request is kept. -/
def pullRef (number : Nat) : String := "refs/pull/" ++ toString number ++ "/head"

end Dialect

end WebhookRelay
