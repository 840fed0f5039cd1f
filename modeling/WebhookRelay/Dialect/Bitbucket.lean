import WebhookRelay.Dialect.Bitbucket.Author
import WebhookRelay.Dialect.Bitbucket.Payload

/-!
The Bitbucket dialect. The name of an event tells its action.
-/

namespace WebhookRelay.Bitbucket

open Dialect

def Account.toUser (a : Account) : User where
  login := firstGiven (a.nickname.getD "") a.displayName
  name := a.displayName
  avatar := a.links.avatar.href

/-- What stands before the first slash is the owner. -/
def splitPath (path : String) : String × String :=
  match Text.splitFirst? '/' path.toList with
  | some (owner, name) => (String.ofList owner, String.ofList name)
  | none => ("", path)

def Repo.toRepository (r : Repo) : Repository where
  id := r.uuid
  owner := (splitPath r.fullName).1
  name := (splitPath r.fullName).2
  branch := (r.branch.map Branch.name).getD ""
  isPrivate := r.isPrivate
  clone := "https://bitbucket.org/" ++ r.fullName ++ ".git"
  cloneSsh := "git@bitbucket.org:" ++ r.fullName ++ ".git"
  link := r.links.html.href

def Author.toIdentity (a : Author) (date : Option Timestamp) : Identity :=
  let user := (a.user.map Account.toUser).getD {}
  let (name, email) := parseAuthor a.raw
  { login := user.login, name, email, avatar := user.avatar, date }

/-- The author stands for the committer too. -/
def PushedCommit.toCommit (c : PushedCommit) : Commit :=
  let author := (c.author.getD { raw := "", user := none }).toIdentity c.date
  { sha := c.hash
    message := c.message
    author
    committer := author
    link := c.links.html.href }

def RefState.toReference (r : RefState) : Reference where
  name := r.name
  sha := some r.target.hash

/-- The push of a branch to its state `new`. The newest commit is listed first. -/
def Change.push (c : Change) (new : RefState) (sender : User) : Push :=
  let commits := c.commits.map PushedCommit.toCommit
  let after := new.target.hash
  let compare := c.links.html.href
  { ref := "refs/heads/" ++ new.name
    before := (c.old.map (·.target.hash)).getD ""
    after
    compare
    commit :=
      match commits with
      | [] => .pushedBy sender after compare
      | first :: _ => headCommit after first commits
    commits }

/-- A closed change has deleted its reference. Any other change of a tag that did not create it
has moved it. -/
def Change.subject (c : Change) (sender : User) : Except DecodeError Subject :=
  if c.closed then
    match c.old with
    | none => .error (.malformed (.lacks "closed change" "old ref"))
    | some old =>
      match old.type with
      | "branch" => .ok (.branch old.toReference .delete)
      | "tag" => .ok (.tag old.toReference .delete)
      | other => .error (.unknownEvent other)
  else
    match c.new with
    | none => .error (.malformed (.lacks "change" "new ref"))
    | some new =>
      match new.type with
      | "tag" => .ok (.tag new.toReference (if c.created then .create else .update))
      | "branch" => .ok (.push (c.push new sender))
      | other => .error (.unknownEvent other)

/-- Of several changes the first is told. -/
def PushPayload.toEvent (p : PushPayload) : Except DecodeError Event := do
  let sender := p.actor.toUser
  match p.push.changes with
  | [] => throw (.malformed (.lacks "push" "changes"))
  | change :: _ =>
    return { subject := ← change.subject sender, repo := p.repo.toRepository, sender }

def Pull.toPullRequest (p : Pull) : PullRequest where
  number := p.id
  title := p.title
  body := p.description
  sha := (p.source.commit.map EndCommit.hash).getD ""
  ref := "refs/pull-requests/" ++ toString p.id ++ "/from"
  source := p.source.branch.name
  target := p.target.branch.name
  fork := (p.source.repo.map EndRepo.fullName).getD ""
  link := p.links.html.href
  closed := p.state != "OPEN"
  merged := p.state == "MERGED"
  author := p.author.toUser

def Remark.toComment (r : Remark) : Comment where
  id := r.id
  body := r.content.raw
  author := r.user.toUser
  link := r.links.html.href

def PullPayload.toEvent (action : Action) (p : PullPayload) : Event where
  subject := .pullRequest action p.pull.toPullRequest
  repo := p.repo.toRepository
  sender := p.actor.toUser

def PullCommentPayload.toEvent (action : Action) (p : PullCommentPayload) : Event where
  subject := .pullRequestComment action p.pull.toPullRequest p.comment.toComment
  repo := p.repo.toRepository
  sender := p.actor.toUser

inductive Topic where
  | push
  | pullRequest (action : Action)
  | pullRequestComment (action : Action)
  deriving DecidableEq, Repr

/-- The events that are handled, by their names in the event header. -/
def topics : List (String × Topic) := [
  ("repo:push", .push),
  ("pullrequest:created", .pullRequest .open),
  ("pullrequest:updated", .pullRequest .sync),
  ("pullrequest:fulfilled", .pullRequest .merge),
  ("pullrequest:rejected", .pullRequest .close),
  ("pullrequest:comment_created", .pullRequestComment .create),
  ("pullrequest:comment_updated", .pullRequestComment .update),
  ("pullrequest:comment_deleted", .pullRequestComment .delete)]

def decodeTopic (body : List UInt8) : Topic → Except DecodeError Event
  | .push => decodeAs PushPayload.shape (·.toEvent) body
  | .pullRequest action => decodeAs PullPayload.shape (fun p => .ok (p.toEvent action)) body
  | .pullRequestComment action =>
    decodeAs PullCommentPayload.shape (fun p => .ok (p.toEvent action)) body

def dialect : Dialect where
  eventHeader := "X-Event-Key"
  signatures := [{ name := "X-Hub-Signature", scheme := .digest .sha256 (some "sha256=") }]
  decode event body :=
    match topics.lookup event with
    | some topic => do return { event := ← decodeTopic body topic }
    | none => .error (.unknownEvent event)

end WebhookRelay.Bitbucket
