import WebhookRelay.Delivery
import WebhookRelay.Dialect.Bitbucket
import WebhookRelay.Dialect.GitHub
import WebhookRelay.Dialect.GitLab
import WebhookRelay.Dialect.Gogs
import WebhookRelay.Dialect.Stash
import WebhookRelay.Provider

/-!
From a delivery to an authentic event. The event is decoded first, so that the key it has to be
signed with may depend on it.
-/

namespace WebhookRelay

def Provider.dialect? : Provider → Option Dialect
  | .github => some GitHub.dialect
  | .gitlab => some GitLab.dialect
  | .gitea => some Gitea.dialect
  | .gogs => some Gogs.dialect
  | .bitbucket => some Bitbucket.dialect
  | .stash => some Stash.dialect
  | .fake => none

/-- Why a delivery is refused. An event is attached where it was decoded, but it is not
authentic. -/
inductive ParseError where
  | unsupported (provider : Provider)
  | undecoded (cause : DecodeError)
  | forged (event : Event)
  | noKey (event : Event) (cause : String)
  deriving Repr

def ParseError.message : ParseError → String
  | unsupported provider => "operation not supported by the " ++ provider.name ++ " driver"
  | undecoded cause => cause.message
  | forged _ => "invalid webhook signature"
  | noKey _ _ => "couldn't resolve webhook secret"

/-- The event that is attached. -/
def ParseError.event? : ParseError → Option Event
  | forged event => some event
  | noKey event _ => some event
  | _ => none

/-- The parameter of the query that may carry the secret. -/
def secretParam : String := "secret"

namespace Dialect

/-- The first signature header that is present, with its value. -/
def signature? (dialect : Dialect) (delivery : Delivery) : Option (SignatureHeader × String) :=
  dialect.signatures.findSome? fun header =>
    (delivery.header? header.name).map fun value => (header, value)

/-- Whether a delivery proves to know the key, by its signature if it has one, and else by the
secret in its payload or, without that, in its query. -/
def authentic (dialect : Dialect) (delivery : Delivery) (secret : Option String) (key : String) :
    Bool :=
  match dialect.signature? delivery with
  | some (header, value) => header.scheme.verify key delivery.body value
  | none =>
    match given? secret <|> delivery.param? secretParam with
    | some secret => tokenMatches secret key
    | none => false

/-- Decodes a delivery by the name in its event header. -/
def decodeDelivery (dialect : Dialect) (delivery : Delivery) : Except DecodeError Decoded :=
  dialect.decode ((delivery.header? dialect.eventHeader).getD "") delivery.body

end Dialect

/-- The event of a delivery, if it is authentic by the key that `resolve` gives for the event.
With an empty key every delivery counts as authentic. -/
def parse {m : Type → Type} [Monad m] (provider : Provider) (delivery : Delivery)
    (resolve : Event → m (Except String String)) : m (Except ParseError Event) :=
  match provider.dialect? with
  | none => pure (.error (.unsupported provider))
  | some dialect =>
    match dialect.decodeDelivery delivery with
    | .error cause => pure (.error (.undecoded cause))
    | .ok decoded => do
      match ← resolve decoded.event with
      | .error cause => return .error (.noKey decoded.event cause)
      | .ok key =>
        if key.isEmpty || dialect.authentic delivery decoded.secret key then
          return .ok decoded.event
        else return .error (.forged decoded.event)

end WebhookRelay
