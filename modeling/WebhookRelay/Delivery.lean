import WebhookRelay.Query

/-!
A delivery as it arrives: headers, a raw query and a body of bounded size.
-/

namespace WebhookRelay

/-- Longer bodies are refused. -/
def maxBody : Nat := 10000000

structure Delivery where
  headers : List (String × String) := []
  query : Option String := none
  body : List UInt8 := []
  body_le : body.length ≤ maxBody := by decide

inductive BodyError where
  | tooLarge
  | unreadable (cause : String)
  deriving DecidableEq, Repr

def BodyError.message : BodyError → String
  | tooLarge => s!"webhook payload is larger than {maxBody} bytes"
  | unreadable cause => "couldn't read webhook body: " ++ cause

/-- What each read of a source gives in turn: some bytes, none at the end, or a failure. -/
abbrev Source := Nat → Except String (List UInt8)

/-- Reads chunks until the source ends. Those read so far are `size` bytes, latest first. -/
def Source.gather (source : Source) (turn : Nat) (chunks : List (List UInt8)) (size : Nat) :
    Except BodyError (List (List UInt8)) :=
  if maxBody < size then .error .tooLarge
  else
    match source turn with
    | .error cause => .error (.unreadable cause)
    | .ok [] => .ok chunks.reverse
    | .ok (b :: chunk) => source.gather (turn + 1) ((b :: chunk) :: chunks) (size + chunk.length + 1)
termination_by maxBody + 1 - size

namespace Delivery

instance : Inhabited Delivery := ⟨{}⟩

def ofBody (body : List UInt8) : Except BodyError Delivery :=
  if h : body.length ≤ maxBody then .ok { body, body_le := h } else .error .tooLarge

/-- Reads the body until the source ends, fails, or has given more than a body may hold. -/
def ofSource (source : Source) : Except BodyError Delivery := do
  let chunks ← source.gather 0 [] 0
  ofBody chunks.flatten

def withHeader (d : Delivery) (name value : String) : Delivery :=
  { d with headers := d.headers ++ [(name, value)] }

/-- Sets the raw query, without its `?`. -/
def withQuery (d : Delivery) (query : String) : Delivery := { d with query := some query }

/-- Whether two header names differ in nothing but the case of ASCII letters. -/
def sameName (a b : String) : Bool := a.map Char.toLower == b.map Char.toLower

/-- The first value of a header that is not empty. -/
def header? (d : Delivery) (name : String) : Option String :=
  (d.headers.find? fun (n, v) => sameName n name && !v.isEmpty).map Prod.snd

/-- The first value of a query parameter that is not empty. -/
def param? (d : Delivery) (name : String) : Option String := do
  let query ← d.query
  ((Query.params query).find? fun (n, v) => n == name && !v.isEmpty).map Prod.snd

end Delivery

end WebhookRelay
