import WebhookRelay.Dialect.GitHub.Payload

/-!
The GitHub dialect. Links are written in the normal form of URLs.
-/

namespace WebhookRelay.GitHub

open Dialect

def Account.toUser (a : Account) : User where
  login := a.login
  name := a.name.getD ""
  email := given? a.email
  avatar := a.avatar

def Pusher.toUser (p : Pusher) : User where
  login := p.name
  name := p.name
  email := given? p.email

def Repo.toRepository (r : Repo) : Repository where
  id := toString r.id
  owner := r.owner.login
  name := r.name
  branch := r.branch
  isPrivate := r.isPrivate
  clone := r.clone
  cloneSsh := r.cloneSsh
  link := r.link.toText

def Author.toIdentity (a : Author) (date : Timestamp) : Identity where
  login := a.username.getD ""
  name := a.name
  email := given? a.email
  date := some date

def PushedCommit.toCommit (c : PushedCommit) : Commit where
  sha := c.id
  message := c.message
  author := c.author.toIdentity c.time
  committer := c.committer.toIdentity c.time
  link := c.link.toText

/-- The head commit counts only beside listed commits. The newest of them is listed last. -/
def PushPayload.toEvent (p : PushPayload) : Event where
  subject :=
    let commits := p.commits.map PushedCommit.toCommit
    .push {
      ref := p.ref
      before := p.before
      after := p.after
      compare := p.compare
      commit :=
        match commits.getLast?, p.head with
        | none, _ => .pushedBy p.pusher.toUser p.after p.compare
        | some _, some head => head.toCommit
        | some last, none => headCommit p.after last commits
      commits }
  repo := p.repo.toRepository
  sender := p.sender.toUser

def RefPayload.toEvent (action : Action) (p : RefPayload) : Except DecodeError Event := do
  let subject ←
    match p.refType with
    | "branch" => .ok (.branch { name := p.ref } action)
    | "tag" => .ok (.tag { name := p.ref } action)
    | other => .error (.unknownEvent other)
  return { subject, repo := p.repo.toRepository, sender := p.sender.toUser }

def IssueItem.toIssue (i : IssueItem) : Issue where
  number := i.number
  title := i.title
  body := i.body.getD ""
  link := i.link.toText
  labels := i.labels.map Label.name
  closed := i.state == "closed"
  author := i.user.toUser

/-- The pull request that an issue is, as far as the issue tells it. -/
def IssueItem.toPullRequest (i : IssueItem) (mark : PullMark) : PullRequest where
  number := i.number
  title := i.title
  body := i.body.getD ""
  ref := pullRef i.number
  link := mark.link.toText
  labels := i.labels.map Label.name
  closed := i.state == "closed"
  author := i.user.toUser

def IssuePayload.toEvent (p : IssuePayload) : Event where
  subject := .issue (.ofVerb p.action) p.issue.toIssue
  repo := p.repo.toRepository
  sender := p.sender.toUser

def Remark.toComment (r : Remark) : Comment where
  id := r.id
  body := r.body
  author := r.user.toUser
  link := r.link.toText

def IssueCommentPayload.toEvent (p : IssueCommentPayload) : Event where
  subject :=
    match p.issue.pull with
    | some mark =>
      .pullRequestComment (.ofVerb p.action) (p.issue.toPullRequest mark) p.comment.toComment
    | none => .issueComment (.ofVerb p.action) p.issue.toIssue p.comment.toComment
  repo := p.repo.toRepository
  sender := p.sender.toUser

def Pull.toPullRequest (p : Pull) : PullRequest where
  number := p.number
  title := p.title
  body := p.body.getD ""
  sha := p.head.sha
  ref := pullRef p.number
  source := p.head.ref
  target := p.base.ref
  fork := (p.head.repo.map BranchRepo.fullName).getD ""
  link := p.link.toText
  labels := p.labels.map Label.name
  closed := p.state == "closed"
  merged := p.merged.getD false
  author := p.user.toUser

/-- A merge is told as the closing of a merged pull request. -/
def PullPayload.toEvent (p : PullPayload) : Event where
  subject :=
    let pull := p.pull.toPullRequest
    let action := Action.ofVerb p.action
    .pullRequest (if action = .close ∧ pull.merged then .merge else action) pull
  repo := p.repo.toRepository
  sender := p.sender.toUser

def PullCommentPayload.toEvent (p : PullCommentPayload) : Event where
  subject := .pullRequestComment (.ofVerb p.action) p.pull.toPullRequest p.comment.toComment
  repo := p.repo.toRepository
  sender := p.sender.toUser

def ReviewPayload.toEvent (p : ReviewPayload) : Event where
  subject :=
    .review (.ofReviewVerb p.action) p.pull.toPullRequest {
      id := p.review.id
      body := p.review.body.getD ""
      state := p.review.state
      author := p.review.user.toUser
      link := p.review.link.toText }
  repo := p.repo.toRepository
  sender := p.sender.toUser

inductive Topic where
  | push
  | create
  | delete
  | issue
  | issueComment
  | pullRequest
  | review
  | reviewComment
  deriving DecidableEq, Repr

/-- The events that are handled, by their names in the event header. -/
def topics : List (String × Topic) := [
  ("push", .push),
  ("create", .create),
  ("delete", .delete),
  ("issues", .issue),
  ("issue_comment", .issueComment),
  ("pull_request", .pullRequest),
  ("pull_request_review", .review),
  ("pull_request_review_comment", .reviewComment)]

def decodeTopic (body : List UInt8) : Topic → Except DecodeError Event
  | .push => decodeAs PushPayload.shape (.ok ·.toEvent) body
  | .create => decodeAs RefPayload.shape (·.toEvent .create) body
  | .delete => decodeAs RefPayload.shape (·.toEvent .delete) body
  | .issue => decodeAs IssuePayload.shape (.ok ·.toEvent) body
  | .issueComment => decodeAs IssueCommentPayload.shape (.ok ·.toEvent) body
  | .pullRequest => decodeAs PullPayload.shape (.ok ·.toEvent) body
  | .review => decodeAs ReviewPayload.shape (.ok ·.toEvent) body
  | .reviewComment => decodeAs PullCommentPayload.shape (.ok ·.toEvent) body

def dialect : Dialect where
  eventHeader := "X-GitHub-Event"
  signatures := [
    { name := "X-Hub-Signature-256", scheme := .digest .sha256 (some "sha256=") },
    { name := "X-Hub-Signature", scheme := .digest .sha1 (some "sha1=") }]
  decode event body :=
    match topics.lookup event with
    | some topic => do return { event := ← decodeTopic body topic }
    | none => .error (.unknownEvent event)

end WebhookRelay.GitHub
