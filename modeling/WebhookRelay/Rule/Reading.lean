import WebhookRelay.Pattern.Reading
import WebhookRelay.Rule
import WebhookRelay.Yaml.Node

/-!
Reading rules from a YAML document: a mapping with a sequence of rules under `secrets`. A document
with tags, anchors, aliases or directives is refused.
-/

namespace WebhookRelay

namespace Rule

def ofNode? (node : Yaml.Node) : Option Rule := do
  match ← node.members? ["driver", "repository", "secret"] with
  | [some driver, some repository, some secret] =>
    let provider ← Provider.ofTag? (← driver.text?)
    let spelling ← repository.text?
    let pattern ← Pattern.ofText? spelling
    return { provider, spelling, pattern, secret := ← secret.text? }
  | _ => none

/-- The rules of a document, if all of them are sound. -/
def listOfText? (text : String) : Option (List Rule) := do
  match ← (← Yaml.Node.ofText? text).members? ["secrets"] with
  | [some secrets] => (← secrets.items?).mapM ofNode?
  | _ => return []

end Rule

end WebhookRelay
