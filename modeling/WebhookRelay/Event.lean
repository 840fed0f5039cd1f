import WebhookRelay.Action
import WebhookRelay.Timestamp

/-!
The one event model that the payloads of every provider are converted to. All values are copies
of what the provider sent.
-/

namespace WebhookRelay

/-- `branch` is the default branch, if the provider tells it. -/
structure Repository where
  id : String := ""
  owner : String := ""
  name : String := ""
  branch : String := ""
  isPrivate : Bool := false
  clone : String := ""
  cloneSsh : String := ""
  link : String := ""
  deriving DecidableEq, Repr, Inhabited

def Repository.fullName (r : Repository) : String := r.owner ++ "/" ++ r.name

structure User where
  login : String := ""
  name : String := ""
  email : Option String := none
  avatar : String := ""
  deriving DecidableEq, Repr, Inhabited

/-- Who stands on a commit as author or committer. -/
structure Identity where
  login : String := ""
  name : String := ""
  email : Option String := none
  avatar : String := ""
  date : Option Timestamp := none
  deriving DecidableEq, Repr, Inhabited

def User.identity (u : User) : Identity where
  login := u.login
  name := u.name
  email := u.email
  avatar := u.avatar

structure Reference where
  name : String := ""
  sha : Option String := none
  deriving DecidableEq, Repr, Inhabited

structure Commit where
  sha : String := ""
  message : String := ""
  author : Identity := {}
  committer : Identity := {}
  link : String := ""
  deriving DecidableEq, Repr, Inhabited

/-- The commit that stands for a push that lists none. -/
def Commit.pushedBy (pusher : User) (sha link : String) : Commit where
  sha := sha
  author := pusher.identity
  committer := pusher.identity
  link := link

structure Issue where
  number : Nat := 0
  title : String := ""
  body : String := ""
  link : String := ""
  labels : List String := []
  closed : Bool := false
  author : User := {}
  deriving DecidableEq, Repr, Inhabited

/-- `sha` is the head commit and `fork` the full name of the repository that the changes come
from, if the payload carries them. -/
structure PullRequest where
  number : Nat := 0
  title : String := ""
  body : String := ""
  sha : String := ""
  ref : String := ""
  source : String := ""
  target : String := ""
  fork : String := ""
  link : String := ""
  labels : List String := []
  closed : Bool := false
  merged : Bool := false
  author : User := {}
  deriving DecidableEq, Repr, Inhabited

structure Comment where
  id : Nat := 0
  body : String := ""
  author : User := {}
  link : String := ""
  deriving DecidableEq, Repr, Inhabited

structure Review where
  id : Nat := 0
  body : String := ""
  state : String := ""
  author : User := {}
  link : String := ""
  deriving DecidableEq, Repr, Inhabited

/-- `commit` is the one that the push ends at. -/
structure Push where
  ref : String
  before : String
  after : String
  compare : String
  commit : Commit
  commits : List Commit
  deriving DecidableEq, Repr

/-- What an event is about. -/
inductive Subject where
  | push (push : Push)
  | branch (ref : Reference) (action : Action)
  | tag (ref : Reference) (action : Action)
  | issue (action : Action) (issue : Issue)
  | issueComment (action : Action) (issue : Issue) (comment : Comment)
  | pullRequest (action : Action) (pullRequest : PullRequest)
  | pullRequestComment (action : Action) (pullRequest : PullRequest) (comment : Comment)
  | review (action : Action) (pullRequest : PullRequest) (review : Review)
  deriving DecidableEq, Repr

namespace Subject

def kind : Subject → String
  | push .. => "push"
  | branch .. => "branch"
  | tag .. => "tag"
  | issue .. => "issue"
  | issueComment .. => "issue_comment"
  | pullRequest .. => "pull_request"
  | pullRequestComment .. => "pull_request_comment"
  | review .. => "review"

/-- Every kind but a push has an action. -/
def action? : Subject → Option Action
  | push _ => none
  | branch _ action | tag _ action | issue action _ | issueComment action _ _
  | pullRequest action _ | pullRequestComment action _ _ | review action _ _ => some action

end Subject

structure Event where
  subject : Subject
  repo : Repository
  sender : User
  deriving DecidableEq, Repr

namespace Event

def kind (e : Event) : String := e.subject.kind

def action? (e : Event) : Option Action := e.subject.action?

end Event

end WebhookRelay
