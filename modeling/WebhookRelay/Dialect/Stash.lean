import WebhookRelay.Dialect.Stash.Payload

/-!
The dialect of Bitbucket Server. The name of an event tells its action.
-/

namespace WebhookRelay.Stash

open Dialect

def Account.toUser (a : Account) : User where
  login := firstGiven a.slug a.name
  name := a.displayName
  email := given? a.email

def Links.own (l : Links) : String := (l.self.head?.map Link.href).getD ""

def Links.cloneBy (l : Links) (protocol : String) : String :=
  ((l.clone.find? (·.name == protocol)).map Link.href).getD ""

/-- The default branch is not told. -/
def Repo.toRepository (r : Repo) : Repository where
  id := toString r.id
  owner := r.project.key
  name := r.slug
  isPrivate := !r.isPublic
  clone := r.links.cloneBy "http"
  cloneSsh := r.links.cloneBy "ssh"
  link := r.links.own

/-- The link to the commits of a repository, beside the one to its files. -/
def commitsLink (link : String) : String :=
  ((Text.stripTail? "/browse".toList link.toList).map String.ofList).getD link ++ "/commits"

def changeTypes : List (String × Action) := [
  ("ADD", .create),
  ("UPDATE", .update),
  ("DELETE", .delete)]

/-- No commits are listed. -/
def Change.push (c : Change) (repo : Repo) (sender : User) : Push :=
  let compare := commitsLink repo.links.own ++ "?until=" ++ c.toHash
  { ref := c.ref.id
    before := c.fromHash
    after := c.toHash
    compare
    commit := .pushedBy sender c.toHash compare
    commits := [] }

/-- A branch that was not deleted is told as a push. -/
def Change.subject (c : Change) (repo : Repo) (sender : User) : Except DecodeError Subject :=
  match changeTypes.lookup c.type with
  | none => .error (.unknownEvent c.type)
  | some action =>
    let deleted := action == .delete
    let ref : Reference :=
      { name := c.ref.displayId, sha := some (if deleted then c.fromHash else c.toHash) }
    match c.ref.type with
    | "TAG" => .ok (.tag ref action)
    | "BRANCH" => .ok (if deleted then .branch ref action else .push (c.push repo sender))
    | other => .error (.unknownEvent other)

/-- Of several changes the first is told. -/
def RefsPayload.toEvent (p : RefsPayload) : Except DecodeError Event := do
  let sender := p.actor.toUser
  match p.changes with
  | [] => throw (.malformed (.lacks "refs_changed" "changes"))
  | change :: _ =>
    return { subject := ← change.subject p.repo sender, repo := p.repo.toRepository, sender }

def Pull.toPullRequest (p : Pull) : PullRequest where
  number := p.id
  title := p.title
  body := p.description
  sha := p.source.commit
  ref := "refs/pull-requests/" ++ toString p.id ++ "/from"
  source := p.source.displayId
  target := p.target.displayId
  fork := p.source.repo.project.key ++ "/" ++ p.source.repo.slug
  link := p.links.own
  closed := p.state != "OPEN"
  merged := p.state == "MERGED"
  author := p.author.user.toUser

/-- The link of a comment is that of its pull request with the number of the comment. -/
def Remark.toComment (r : Remark) (pull : Pull) : Comment where
  id := r.id
  body := r.text
  author := r.author.toUser
  link := pull.links.own ++ "?commentId=" ++ toString r.id

def PullPayload.toEvent (action : Action) (p : PullPayload) : Event where
  subject := .pullRequest action p.pull.toPullRequest
  repo := p.pull.target.repo.toRepository
  sender := p.actor.toUser

def PullCommentPayload.toEvent (action : Action) (p : PullCommentPayload) : Event where
  subject := .pullRequestComment action p.pull.toPullRequest (p.comment.toComment p.pull)
  repo := p.pull.target.repo.toRepository
  sender := p.actor.toUser

inductive Topic where
  | refs
  | pullRequest (action : Action)
  | pullRequestComment (action : Action)
  deriving DecidableEq, Repr

/-- The events that are handled, by their names in the event header. -/
def topics : List (String × Topic) := [
  ("repo:refs_changed", .refs),
  ("pr:opened", .pullRequest .open),
  ("pr:from_ref_updated", .pullRequest .sync),
  ("pr:modified", .pullRequest .update),
  ("pr:merged", .pullRequest .merge),
  ("pr:declined", .pullRequest .close),
  ("pr:deleted", .pullRequest .delete),
  ("pr:comment:added", .pullRequestComment .create),
  ("pr:comment:edited", .pullRequestComment .update),
  ("pr:comment:deleted", .pullRequestComment .delete)]

def decodeTopic (body : List UInt8) : Topic → Except DecodeError Event
  | .refs => decodeAs RefsPayload.shape (·.toEvent) body
  | .pullRequest action => decodeAs PullPayload.shape (fun p => .ok (p.toEvent action)) body
  | .pullRequestComment action =>
    decodeAs PullCommentPayload.shape (fun p => .ok (p.toEvent action)) body

def dialect : Dialect where
  eventHeader := "X-Event-Key"
  signatures := [{ name := "X-Hub-Signature", scheme := .digest .sha256 (some "sha256=") }]
  decode event body :=
    match topics.lookup event with
    | some topic => do return { event := ← decodeTopic body topic }
    | none => .error (.unknownEvent event)

end WebhookRelay.Stash
