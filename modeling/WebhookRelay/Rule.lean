import WebhookRelay.Pattern
import WebhookRelay.Provider

/-!
Rules for the key that a delivery has to be signed with. The first one that applies decides.
-/

namespace WebhookRelay

structure Rule where
  provider : Provider
  /-- The pattern as it is written. -/
  spelling : String
  pattern : Pattern
  secret : String

namespace Rule

def appliesTo (rule : Rule) (provider : Provider) (fullName : String) : Bool :=
  rule.provider = provider && rule.pattern.occursIn fullName

/-- The first rule for a repository, by its provider and full name. -/
def first? (rules : List Rule) (provider : Provider) (fullName : String) : Option Rule :=
  rules.find? (·.appliesTo provider fullName)

/-- The key for a repository. Without a rule it is empty. -/
def keyFor (rules : List Rule) (provider : Provider) (fullName : String) : String :=
  ((first? rules provider fullName).map secret).getD ""

end Rule

end WebhookRelay
