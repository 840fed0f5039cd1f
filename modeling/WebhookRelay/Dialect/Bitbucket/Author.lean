import WebhookRelay.Text.Blank
import WebhookRelay.Text.Cut

/-!
The author of a commit as one text, a name before an email in angle brackets.
-/

namespace WebhookRelay.Bitbucket

/-- The email between the first bracket and the closing ones at the end, without blanks. -/
def emailOf (text : List Char) : List Char :=
  Text.trim (Text.dropTail (· == '>') (Text.trimEnd text))

/-- The name and, unless it is empty, the email of a raw author. -/
def parseAuthor (raw : String) : String × Option String :=
  match Text.splitFirst? '<' raw.toList with
  | none => (String.ofList (Text.trim raw.toList), none)
  | some (name, rest) =>
    let email := emailOf rest
    (String.ofList (Text.trim name), if email.isEmpty then none else some (String.ofList email))

end WebhookRelay.Bitbucket
