import WebhookRelay.Dialect.Gitea.Payload

/-!
The Gitea dialect. A push carries the secret in its payload.
-/

namespace WebhookRelay.Gitea

open Dialect

def Account.toUser (a : Account) : User where
  login := firstGiven a.login a.username
  name := a.fullName
  email := given? a.email
  avatar := a.avatar

def Repo.toRepository (r : Repo) : Repository where
  id := toString r.id
  owner := firstGiven r.owner.login r.owner.username
  name := r.name
  branch := r.branch
  isPrivate := r.isPrivate
  clone := r.clone
  cloneSsh := r.cloneSsh
  link := r.link

def Author.toIdentity (a : Author) (date : Option Timestamp) : Identity where
  login := a.username
  name := a.name
  email := given? a.email
  date := date

def PushedCommit.toCommit (c : PushedCommit) : Commit where
  sha := c.id
  message := c.message
  author := c.author.toIdentity c.time
  committer := c.committer.toIdentity c.time
  link := c.link

/-- The newest commit is listed first. -/
def PushPayload.toEvent (p : PushPayload) : Event where
  subject :=
    let commits := (p.commits.getD []).map PushedCommit.toCommit
    .push {
      ref := p.ref
      before := p.before
      after := p.after
      compare := p.compare
      commit :=
        match commits with
        | [] => .pushedBy p.pusher.toUser p.after p.compare
        | first :: _ => headCommit p.after first commits
      commits }
  repo := p.repo.toRepository
  sender := p.sender.toUser

/-- A branch is told without its commit. -/
def RefPayload.toEvent (action : Action) (p : RefPayload) : Except DecodeError Event := do
  let subject ←
    match p.refType with
    | "tag" => .ok (.tag { name := p.ref, sha := given? p.sha } action)
    | "branch" => .ok (.branch { name := p.ref } action)
    | other => .error (.unknownEvent other)
  return { subject, repo := p.repo.toRepository, sender := p.sender.toUser }

def labelNames (labels : Option (List Label)) : List String := (labels.getD []).map Label.name

def IssueItem.toIssue (i : IssueItem) : Issue where
  number := i.number
  title := i.title
  body := i.body
  link := i.link
  labels := labelNames i.labels
  closed := i.state == "closed"
  author := i.user.toUser

/-- The pull request that an issue is, as far as the issue tells it. -/
def IssueItem.toPullRequest (i : IssueItem) (mark : PullMark) : PullRequest where
  number := i.number
  title := i.title
  body := i.body
  ref := pullRef i.number
  link := i.link
  labels := labelNames i.labels
  closed := i.state == "closed"
  merged := mark.merged
  author := i.user.toUser

def IssuePayload.toEvent (p : IssuePayload) : Event where
  subject := .issue (.ofVerb p.action) p.issue.toIssue
  repo := p.repo.toRepository
  sender := p.sender.toUser

def Remark.toComment (r : Remark) : Comment where
  id := r.id
  body := r.body
  author := r.user.toUser
  link := r.link

def IssueCommentPayload.toEvent (p : IssueCommentPayload) : Event where
  subject :=
    match p.issue.pull with
    | some mark =>
      .pullRequestComment (.ofVerb p.action) (p.issue.toPullRequest mark) p.comment.toComment
    | none => .issueComment (.ofVerb p.action) p.issue.toIssue p.comment.toComment
  repo := p.repo.toRepository
  sender := p.sender.toUser

def Pull.toPullRequest (p : Pull) : PullRequest where
  number := p.number
  title := p.title
  body := p.body
  sha := p.head.sha
  ref := pullRef p.number
  source := p.head.ref
  target := p.base.ref
  fork := (p.head.repo.map BranchRepo.fullName).getD ""
  link := p.link
  labels := labelNames p.labels
  closed := p.state == "closed"
  merged := p.merged
  author := p.user.toUser

def PullPayload.toEvent (p : PullPayload) : Event where
  subject := .pullRequest (.ofVerb p.action) p.pull.toPullRequest
  repo := p.repo.toRepository
  sender := p.sender.toUser

/-- The review is by the sender. -/
def ReviewPayload.toEvent (p : ReviewPayload) : Event where
  subject :=
    .review (.ofReviewVerb p.review.type) p.pull.toPullRequest {
      body := p.review.content
      state := p.review.type
      author := p.sender.toUser }
  repo := p.repo.toRepository
  sender := p.sender.toUser

inductive Topic where
  | push
  | create
  | delete
  | issue
  | issueComment
  | pullRequest
  | review
  deriving DecidableEq, Repr

/-- The events that are handled, by their names in the event header. -/
def topics : List (String × Topic) := [
  ("push", .push),
  ("create", .create),
  ("delete", .delete),
  ("issues", .issue),
  ("issue_comment", .issueComment),
  ("pull_request", .pullRequest),
  ("reviewed", .review), ("pull_request_approved", .review), ("pull_request_rejected", .review),
  ("pull_request_comment", .review)]

def decodeTopic (body : List UInt8) : Topic → Except DecodeError Decoded
  | .push => do
    let payload ← (PushPayload.shape.parse body).mapError .malformed
    return { event := payload.toEvent, secret := given? payload.secret }
  | .create => return { event := ← decodeAs RefPayload.shape (·.toEvent .create) body }
  | .delete => return { event := ← decodeAs RefPayload.shape (·.toEvent .delete) body }
  | .issue => return { event := ← decodeAs IssuePayload.shape (.ok ·.toEvent) body }
  | .issueComment => return { event := ← decodeAs IssueCommentPayload.shape (.ok ·.toEvent) body }
  | .pullRequest => return { event := ← decodeAs PullPayload.shape (.ok ·.toEvent) body }
  | .review => return { event := ← decodeAs ReviewPayload.shape (.ok ·.toEvent) body }

def dialect : Dialect where
  eventHeader := "X-Gitea-Event"
  signatures := [{ name := "X-Gitea-Signature", scheme := .digest .sha256 none }]
  decode event body :=
    match topics.lookup event with
    | some topic => decodeTopic body topic
    | none => .error (.unknownEvent event)

end WebhookRelay.Gitea
