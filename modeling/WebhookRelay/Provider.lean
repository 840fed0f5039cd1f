import WebhookRelay.Text.Cut

/-!
The source-control hosts that deliveries come from: their names, and the guess from a host name.
-/

namespace WebhookRelay

/-- `stash` is Bitbucket Server, and `fake` stands for a host without webhooks. -/
inductive Provider where
  | github
  | gitlab
  | gitea
  | gogs
  | bitbucket
  | stash
  | fake
  deriving DecidableEq, Repr

namespace Provider

instance : Inhabited Provider := ⟨github⟩

/-- The name that is shown. -/
def name : Provider → String
  | github => "github"
  | gitlab => "gitlab"
  | gitea => "gitea"
  | gogs => "gogs"
  | bitbucket => "bitbucket"
  | stash => "stash"
  | fake => "fake"

/-- What is read as a name in a path. The empty name stands for the default. -/
def spellings : List (String × Provider) := [
  ("", github), ("github", github),
  ("gitlab", gitlab),
  ("gitea", gitea),
  ("gogs", gogs),
  ("bitbucket", bitbucket), ("bitbucketcloud", bitbucket),
  ("stash", stash), ("bitbucketserver", stash),
  ("fake", fake), ("fakegit", fake)]

def ofName? (text : String) : Option Provider := spellings.lookup text

/-- What is written for a provider in records. -/
def tag : Provider → String
  | github => "github"
  | gitlab => "gitlab"
  | gitea => "gitea"
  | gogs => "gogs"
  | bitbucket => "bitbucket"
  | stash => "stash"
  | fake => "fake"

/-- What is read for a provider in records, in the order in which a fault lists it. -/
def tags : List (String × Provider) := [
  ("github", github),
  ("gitlab", gitlab),
  ("gitea", gitea),
  ("gogs", gogs),
  ("bitbucket", bitbucket), ("bitbucketcloud", bitbucket),
  ("bitbucketserver", stash), ("stash", stash),
  ("fake", fake), ("fakegit", fake)]

def ofTag? (text : String) : Option Provider := tags.lookup text

theorem tag_eq_name (p : Provider) : p.tag = p.name := by
  cases p <;> rfl

def knownHosts : List (String × Provider) := [
  ("github.com", github), ("api.github.com", github),
  ("gitlab.com", gitlab),
  ("bitbucket.org", bitbucket), ("api.bitbucket.org", bitbucket)]

/-- What a host name is searched for, in this order. -/
def hostMarks : List (String × Provider) := [
  ("github", github),
  ("gitlab", gitlab),
  ("gitea", gitea),
  ("gogs", gogs),
  ("stash", stash),
  ("bitbucket", bitbucket)]

/-- Guesses the provider behind a host: a known one first, else by the names that occur in it.
A host that tells nothing is given back, in lower case. -/
def ofHost (host : String) : Except String Provider :=
  let host := host.map Char.toLower
  match knownHosts.lookup host with
  | some provider => .ok provider
  | none =>
    match hostMarks.find? fun (mark, _) => Text.occurs mark.toList host.toList with
    | some (_, provider) => .ok provider
    | none => .error host

end Provider

end WebhookRelay
