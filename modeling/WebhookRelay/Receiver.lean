import WebhookRelay.Dispatch
import WebhookRelay.Event.Record
import WebhookRelay.Rule

/-!
The receiver: it answers requests that carry deliveries, and sends accepted events to the writer of
lines until the other side of its channel closes.
-/

namespace WebhookRelay

namespace Receiver

structure Request where
  method : String := "POST"
  /-- The path and, after the first `?`, the query. -/
  target : String
  headers : List (String × String) := []
  body : List UInt8 := []

namespace Request

/-- The parts of the path that are not empty, percent-decoded. -/
def segments (r : Request) : List String :=
  let parts := (r.target.toList.takeWhile (· != '?')).splitOn '/'
  (parts.filter (!·.isEmpty)).map fun part =>
    Text.Utf8.decodeLossy (Text.Percent.decode (Text.Utf8.encode (String.ofList part)))

/-- The name of the provider that a request is for, if it brings a delivery at all. -/
def route? (r : Request) : Option String :=
  match r.segments with
  | ["api", "webhooks", name] => if r.method = "POST" then some name else none
  | _ => none

def query? (r : Request) : Option String :=
  (Text.splitFirst? '?' r.target.toList).map fun (_, query) => String.ofList query

def delivery (r : Request) : Except BodyError Delivery :=
  (Delivery.ofBody r.body).map fun d => { d with headers := r.headers, query := r.query? }

end Request

inductive Refusal where
  | noRoute
  | bodyTooLarge
  /-- The body broke off before its end. -/
  | bodyUnread (cause : String)
  | unknownProvider
  | unparsed (cause : ParseError)
  /-- There is no one left to pass the event on to. -/
  | closed
  deriving Repr

def Refusal.ofBody : BodyError → Refusal
  | .tooLarge => .bodyTooLarge
  | .unreadable cause => .bodyUnread cause

/-- The status code of the answer. -/
def Refusal.status : Refusal → Nat
  | noRoute => 404
  | bodyTooLarge => 413
  | bodyUnread _ => 400
  | unknownProvider => 404
  | unparsed (.unsupported _) => 501
  | unparsed (.undecoded _) => 400
  | unparsed (.forged _) => 401
  | unparsed (.noKey _ _) => 500
  | closed => 500

inductive Answer where
  | accepted (kind repository : String)
  | refused (cause : Refusal)
  deriving Repr

namespace Answer

def status : Answer → Nat
  | accepted _ _ => 200
  | refused cause => cause.status

/-- The document that an accepted event is answered with. -/
def content? : Answer → Option Json.Value
  | accepted kind repository => some (.obj [("kind", .str kind), ("repository", .str repository)])
  | refused _ => none

end Answer

/-- The way of accepted events to the writer of lines. -/
structure Channel where
  isOpen : Bool := true
  /-- What is sent and not yet taken, in its order. -/
  waiting : List (Provider × Event) := []

namespace Channel

/-- Sends an event, unless no one takes events any more. -/
def send? (channel : Channel) (provider : Provider) (event : Event) : Option Channel :=
  if channel.isOpen then some { channel with waiting := channel.waiting ++ [(provider, event)] }
  else none

/-- What waits can still be taken. -/
def close (channel : Channel) : Channel := { channel with isOpen := false }

/-- The line of the event that waits longest. -/
def take? (channel : Channel) : Option (String × Channel) :=
  match channel.waiting with
  | [] => none
  | (provider, event) :: rest => some (event.line provider, { channel with waiting := rest })

/-- The lines of all events that wait. -/
def lines (channel : Channel) : List String :=
  channel.waiting.map fun (provider, event) => event.line provider

end Channel

/-- The key for an event by these rules. -/
def resolver (rules : List Rule) (provider : Provider) (event : Event) :
    Id (Except String String) :=
  .ok (Rule.keyFor rules provider event.repo.fullName)

/-- Sends an accepted event on, and answers what came of it. -/
def forward (channel : Channel) (provider : Provider) (event : Event) : Answer × Channel :=
  match channel.send? provider event with
  | none => (.refused .closed, channel)
  | some channel => (.accepted event.kind event.repo.fullName, channel)

/-- Answers a request by these rules. -/
def handle (rules : List Rule) (channel : Channel) (r : Request) : Answer × Channel :=
  match r.route?, r.delivery with
  | none, _ => (.refused .noRoute, channel)
  | some _, .error cause => (.refused (.ofBody cause), channel)
  | some name, .ok delivery =>
    match Provider.ofName? name with
    | none => (.refused .unknownProvider, channel)
    | some provider =>
      match (parse provider delivery (resolver rules provider)).run with
      | .error cause => (.refused (.unparsed cause), channel)
      | .ok event => forward channel provider event

/-- Answers a request whose body comes from a source, once the body is read. -/
def receive (rules : List Rule) (channel : Channel) (r : Request) (source : Source) :
    Answer × Channel :=
  match r.route?, Delivery.ofSource source with
  | none, _ => (.refused .noRoute, channel)
  | some _, .error cause => (.refused (.ofBody cause), channel)
  | some _, .ok delivery => handle rules channel { r with body := delivery.body }

/-- What happens to a receiver. -/
inductive Occasion where
  | request (r : Request)
  | close

/-- An answer, with the lines that are written before the next request. -/
structure Response where
  answer : Answer
  lines : List String
  deriving Repr

namespace Response

def status (response : Response) : Nat := response.answer.status

def content? (response : Response) : Option Json.Value := response.answer.content?

def line? (response : Response) : Option String := response.lines.head?

end Response

/-- Answers a request, after which everything that waits is written. -/
def serve (rules : List Rule) (channel : Channel) (r : Request) : Response × Channel :=
  let (answer, channel) := handle rules channel r
  ({ answer, lines := channel.lines }, { channel with waiting := [] })

/-- The responses to the requests, in their order. -/
def serveAll (rules : List Rule) (channel : Channel) : List Occasion → List Response
  | [] => []
  | .request r :: rest =>
    let (response, channel) := serve rules channel r
    response :: serveAll rules channel rest
  | .close :: rest => serveAll rules channel.close rest

def run (rules : List Rule) (isOpen : Bool) (occasions : List Occasion) : List Response :=
  serveAll rules { isOpen } occasions

/-- A turn of the receiver, or of the writer, which takes one event if one waits. -/
inductive Turn where
  | occasion (o : Occasion)
  | write

/-- How far receiver and writer are: the channel between them, the answers and the lines. -/
structure Progress where
  channel : Channel
  answers : List Answer := []
  lines : List String := []

def Progress.step (rules : List Rule) (p : Progress) : Turn → Progress
  | .occasion (.request r) =>
    let (answer, channel) := handle rules p.channel r
    { p with channel, answers := p.answers ++ [answer] }
  | .occasion .close => { p with channel := p.channel.close }
  | .write =>
    match p.channel.take? with
    | none => p
    | some (line, channel) => { p with channel, lines := p.lines ++ [line] }

/-- Receiver and writer, taking turns in any order. -/
def play (rules : List Rule) (isOpen : Bool) (turns : List Turn) : Progress :=
  turns.foldl (Progress.step rules) { channel := { isOpen } }

end Receiver

end WebhookRelay
