import WebhookRelay.Dialect.GitLab.Payload

/-!
The GitLab dialect. Issues and merge requests do not tell their authors, so the acting user stands
in for them.
-/

namespace WebhookRelay.GitLab

open Dialect

/-- The hash that a deleted reference is pushed to. -/
def zeroSha : String := String.ofList (List.replicate 40 '0')

def Account.toUser (a : Account) : User where
  login := a.username
  name := a.name
  email := given? a.email
  avatar := a.avatar.getD ""

/-- The last part of a path is the name. What stands before it may hold slashes. -/
def splitPath (path : String) : String × String :=
  match Text.splitLast? '/' path.toList with
  | some (owner, name) => (String.ofList owner, String.ofList name)
  | none => ("", path)

def Project.toRepository (p : Project) : Repository where
  id := toString p.id
  owner := (splitPath p.path).1
  name := (splitPath p.path).2
  branch := p.branch.getD ""
  isPrivate := p.visibility == 0
  clone := p.clone
  cloneSsh := p.cloneSsh
  link := p.link

def Author.toIdentity (a : Author) (date : Option Timestamp) : Identity where
  name := a.name
  email := given? a.email
  date := date

/-- The author stands for the committer too. -/
def PushedCommit.toCommit (c : PushedCommit) : Commit where
  sha := c.id
  message := c.message
  author := c.author.toIdentity c.time
  committer := c.author.toIdentity c.time
  link := c.link

def PushPayload.sender (p : PushPayload) : User where
  login := p.userLogin
  name := p.userName
  email := given? p.userEmail
  avatar := p.userAvatar.getD ""

/-- The reference of a push that deletes it. -/
def PushPayload.deleted (p : PushPayload) : Reference where
  name := shortRef p.ref
  sha := some p.before

/-- The oldest commit is listed first. -/
def PushPayload.push (p : PushPayload) : Push :=
  let commits := p.commits.map PushedCommit.toCommit
  let compare := p.project.link ++ "/-/compare/" ++ p.before ++ "..." ++ p.after
  { ref := p.ref
    before := p.before
    after := p.after
    compare
    commit :=
      match commits.getLast? with
      | none => .pushedBy p.sender p.after compare
      | some last => headCommit (p.checkout.getD p.after) last commits
    commits }

/-- A creation is told as a push, which carries the commits. -/
def PushPayload.toEvent (p : PushPayload) : Except DecodeError Event := do
  let subject ←
    match p.kind, p.after == zeroSha with
    | "push", true => .ok (.branch p.deleted .delete)
    | "tag_push", true => .ok (.tag p.deleted .delete)
    | "push", false => .ok (.push p.push)
    | "tag_push", false => .ok (.push p.push)
    | other, _ => .error (.unknownEvent other)
  return { subject, repo := p.project.toRepository, sender := p.sender }

def labelTitles (labels : Option (List Label)) : List String := (labels.getD []).map Label.title

def IssueItem.toIssue (i : IssueItem) (labels : Option (List Label)) (author : User) : Issue where
  number := i.number
  title := i.title
  body := i.description.getD ""
  link := i.link
  labels := labelTitles labels
  closed := i.state == "closed"
  author := author

def MergeRequest.toPullRequest (m : MergeRequest) (labels : Option (List Label)) (author : User) :
    PullRequest where
  number := m.number
  title := m.title
  body := m.description.getD ""
  sha := (m.lastCommit.map LastCommit.id).getD ""
  ref := "refs/merge-requests/" ++ toString m.number ++ "/head"
  source := m.source
  target := m.target
  fork := (m.sourceProject.map SourceProject.path).getD ""
  link := m.link
  labels := labelTitles labels
  closed := m.state == "closed" || m.state == "merged"
  merged := m.state == "merged"
  author := author

/-- An update with an old revision has pushed commits. -/
def MergeRequest.toAction (m : MergeRequest) : Action :=
  match m.action with
  | none => .unknown
  | some verb =>
    if verb = "update" ∧ m.oldRevision.isSome then .sync else .ofVerb verb

def IssuePayload.toEvent (p : IssuePayload) : Event where
  subject :=
    .issue ((p.issue.action.map Action.ofVerb).getD .unknown)
      (p.issue.toIssue p.labels p.user.toUser)
  repo := p.project.toRepository
  sender := p.user.toUser

def MergeRequestPayload.toEvent (p : MergeRequestPayload) : Event where
  subject :=
    .pullRequest p.mergeRequest.toAction (p.mergeRequest.toPullRequest p.labels p.user.toUser)
  repo := p.project.toRepository
  sender := p.user.toUser

/-- A note without an action is new. -/
def NotePayload.toEvent (p : NotePayload) : Except DecodeError Event := do
  let sender := p.user.toUser
  let action := (p.note.action.map Action.ofVerb).getD .create
  let comment : Comment :=
    { id := p.note.id, body := p.note.text, author := sender, link := p.note.link }
  let subject ←
    match p.note.target with
    | "Issue" =>
      match p.issue with
      | some issue => .ok (.issueComment action (issue.toIssue none sender) comment)
      | none => .error (.malformed (.lacks "issue note" "issue"))
    | "MergeRequest" =>
      match p.mergeRequest with
      | some mergeRequest =>
        .ok (.pullRequestComment action (mergeRequest.toPullRequest none sender) comment)
      | none => .error (.malformed (.lacks "merge request note" "merge request"))
    | other => .error (.unknownEvent other)
  return { subject, repo := p.project.toRepository, sender }

inductive Topic where
  | push
  | issue
  | mergeRequest
  | note
  deriving DecidableEq, Repr

/-- The events that are handled, by their names in the event header. -/
def topics : List (String × Topic) := [
  ("Push Hook", .push), ("Tag Push Hook", .push),
  ("Issue Hook", .issue),
  ("Merge Request Hook", .mergeRequest),
  ("Note Hook", .note)]

def decodeTopic (body : List UInt8) : Topic → Except DecodeError Event
  | .push => decodeAs PushPayload.shape (·.toEvent) body
  | .issue => decodeAs IssuePayload.shape (.ok ·.toEvent) body
  | .mergeRequest => decodeAs MergeRequestPayload.shape (.ok ·.toEvent) body
  | .note => decodeAs NotePayload.shape (·.toEvent) body

def dialect : Dialect where
  eventHeader := "X-Gitlab-Event"
  signatures := [{ name := "X-Gitlab-Token", scheme := .token }]
  decode event body :=
    match topics.lookup event with
    | some topic => do return { event := ← decodeTopic body topic }
    | none => .error (.unknownEvent event)

end WebhookRelay.GitLab
