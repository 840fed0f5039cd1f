import WebhookRelay.Event
import WebhookRelay.Json.Value
import WebhookRelay.Provider

/-!
Events as JSON records: the members of each part, in their order.
-/

namespace WebhookRelay

open Json

def Repository.toJson (r : Repository) : Value :=
  .obj [("id", .str r.id), ("namespace", .str r.owner), ("name", .str r.name),
    ("branch", .str r.branch), ("private", .bool r.isPrivate), ("clone", .str r.clone),
    ("clone_ssh", .str r.cloneSsh), ("link", .str r.link)]

def User.toJson (u : User) : Value :=
  .obj [("login", .str u.login), ("name", .str u.name), ("email", ofOption .str u.email),
    ("avatar", .str u.avatar)]

def Identity.toJson (i : Identity) : Value :=
  .obj [("login", .str i.login), ("name", .str i.name), ("email", ofOption .str i.email),
    ("avatar", .str i.avatar), ("date", ofOption (fun t => .str t.toText) i.date)]

def Reference.toJson (r : Reference) : Value :=
  .obj [("name", .str r.name), ("sha", ofOption .str r.sha)]

def Commit.toJson (c : Commit) : Value :=
  .obj [("sha", .str c.sha), ("message", .str c.message), ("author", c.author.toJson),
    ("committer", c.committer.toJson), ("link", .str c.link)]

def Issue.toJson (i : Issue) : Value :=
  .obj [("number", .num i.number), ("title", .str i.title), ("body", .str i.body),
    ("link", .str i.link), ("labels", .arr (i.labels.map .str)), ("closed", .bool i.closed),
    ("author", i.author.toJson)]

def PullRequest.toJson (p : PullRequest) : Value :=
  .obj [("number", .num p.number), ("title", .str p.title), ("body", .str p.body),
    ("sha", .str p.sha), ("ref", .str p.ref), ("source", .str p.source), ("target", .str p.target),
    ("fork", .str p.fork), ("link", .str p.link), ("labels", .arr (p.labels.map .str)),
    ("closed", .bool p.closed), ("merged", .bool p.merged), ("author", p.author.toJson)]

def Comment.toJson (c : Comment) : Value :=
  .obj [("id", .num c.id), ("body", .str c.body), ("author", c.author.toJson),
    ("link", .str c.link)]

def Review.toJson (r : Review) : Value :=
  .obj [("id", .num r.id), ("body", .str r.body), ("state", .str r.state),
    ("author", r.author.toJson), ("link", .str r.link)]

def Action.toJson (a : Action) : Value := .str a.name

def Provider.toJson (p : Provider) : Value := .str p.tag

def Push.members (p : Push) : List (String × Value) :=
  [("ref", .str p.ref), ("before", .str p.before), ("after", .str p.after),
    ("compare", .str p.compare), ("commit", p.commit.toJson),
    ("commits", .arr (p.commits.map Commit.toJson))]

def Subject.members : Subject → List (String × Value)
  | push p => p.members
  | branch r a => [("ref", r.toJson), ("action", a.toJson)]
  | tag r a => [("ref", r.toJson), ("action", a.toJson)]
  | issue a i => [("action", a.toJson), ("issue", i.toJson)]
  | issueComment a i c => [("action", a.toJson), ("issue", i.toJson), ("comment", c.toJson)]
  | pullRequest a p => [("action", a.toJson), ("pull_request", p.toJson)]
  | pullRequestComment a p c =>
    [("action", a.toJson), ("pull_request", p.toJson), ("comment", c.toJson)]
  | review a p r => [("action", a.toJson), ("pull_request", p.toJson), ("review", r.toJson)]

/-- The kind comes first, and the repository and the sender come last. -/
def Event.toJson (e : Event) : Value :=
  .obj (("kind", .str e.kind) :: e.subject.members ++
    [("repo", e.repo.toJson), ("sender", e.sender.toJson)])

/-- The line that an accepted event is passed on as. -/
def Event.line (provider : Provider) (e : Event) : String :=
  (Value.obj [("driver", provider.toJson), ("event", e.toJson)]).compact

end WebhookRelay
