import WebhookRelay.Dialect

/-!
The payloads that GitHub sends, as far as they are converted.
-/

namespace WebhookRelay.GitHub

open Payload

structure Account where
  login : String
  name : Option String
  email : Option String
  avatar : String

def Account.shape : Shape Account :=
  .record "GitHubUser" Account.mk <|
    .required "login" .text <|
    .optional "name" .text <|
    .optional "email" .text <|
    .defaulted "avatar_url" "" .text .done

structure Repo where
  id : Nat
  name : String
  owner : Account
  isPrivate : Bool
  link : Url
  clone : String
  cloneSsh : String
  branch : String

def Repo.shape : Shape Repo :=
  .record "Repository" Repo.mk <|
    .required "id" (.natural 64) <|
    .required "name" .text <|
    .required "owner" Account.shape <|
    .defaulted "private" false .flag <|
    .required "html_url" .link <|
    .defaulted "clone_url" "" .text <|
    .defaulted "ssh_url" "" .text <|
    .defaulted "default_branch" "" .text .done

/-- A pusher comes with a login for a name. -/
structure Pusher where
  name : String
  email : Option String

def Pusher.shape : Shape Pusher :=
  .record "Pusher" Pusher.mk <|
    .required "name" .text <|
    .optional "email" .text .done

structure Author where
  name : String
  email : Option String
  username : Option String

def Author.shape : Shape Author :=
  .record "CommitUser" Author.mk <|
    .required "name" .text <|
    .optional "email" .text <|
    .optional "username" .text .done

structure PushedCommit where
  id : String
  message : String
  time : Timestamp
  link : Url
  author : Author
  committer : Author

def PushedCommit.shape : Shape PushedCommit :=
  .record "Commit" PushedCommit.mk <|
    .required "id" .text <|
    .required "message" .text <|
    .required "timestamp" .time <|
    .required "url" .link <|
    .required "author" Author.shape <|
    .required "committer" Author.shape .done

structure PushPayload where
  ref : String
  before : String
  after : String
  compare : String
  commits : List PushedCommit
  head : Option PushedCommit
  repo : Repo
  pusher : Pusher
  sender : Account

def PushPayload.shape : Shape PushPayload :=
  .record "PushEvent" PushPayload.mk <|
    .required "ref" .text <|
    .required "before" .text <|
    .required "after" .text <|
    .required "compare" .text <|
    .required "commits" (.list PushedCommit.shape) <|
    .optional "head_commit" PushedCommit.shape <|
    .required "repository" Repo.shape <|
    .required "pusher" Pusher.shape <|
    .required "sender" Account.shape .done

/-- A reference that was created or deleted. -/
structure RefPayload where
  ref : String
  refType : String
  repo : Repo
  sender : Account

def RefPayload.shape : Shape RefPayload :=
  .record "RefEvent" RefPayload.mk <|
    .required "ref" .text <|
    .required "ref_type" .text <|
    .required "repository" Repo.shape <|
    .required "sender" Account.shape .done

structure Label where
  name : String

def Label.shape : Shape Label :=
  .record "Label" Label.mk <|
    .required "name" .text .done

/-- What marks an issue as a pull request. -/
structure PullMark where
  link : Url

def PullMark.shape : Shape PullMark :=
  .record "PullRequestLinks" PullMark.mk <|
    .required "html_url" .link .done

structure IssueItem where
  number : Nat
  title : String
  body : Option String
  link : Url
  state : String
  labels : List Label
  user : Account
  pull : Option PullMark

def IssueItem.shape : Shape IssueItem :=
  .record "Issue" IssueItem.mk <|
    .required "number" (.natural 64) <|
    .required "title" .text <|
    .optional "body" .text <|
    .required "html_url" .link <|
    .required "state" .text <|
    .defaulted "labels" [] (.list Label.shape) <|
    .required "user" Account.shape <|
    .optional "pull_request" PullMark.shape .done

structure IssuePayload where
  action : String
  issue : IssueItem
  repo : Repo
  sender : Account

def IssuePayload.shape : Shape IssuePayload :=
  .record "IssuesEvent" IssuePayload.mk <|
    .required "action" .text <|
    .required "issue" IssueItem.shape <|
    .required "repository" Repo.shape <|
    .required "sender" Account.shape .done

structure Remark where
  id : Nat
  body : String
  link : Url
  user : Account

def Remark.shape : Shape Remark :=
  .record "Comment" Remark.mk <|
    .required "id" (.natural 64) <|
    .required "body" .text <|
    .required "html_url" .link <|
    .required "user" Account.shape .done

structure IssueCommentPayload where
  action : String
  issue : IssueItem
  comment : Remark
  repo : Repo
  sender : Account

def IssueCommentPayload.shape : Shape IssueCommentPayload :=
  .record "IssueCommentEvent" IssueCommentPayload.mk <|
    .required "action" .text <|
    .required "issue" IssueItem.shape <|
    .required "comment" Remark.shape <|
    .required "repository" Repo.shape <|
    .required "sender" Account.shape .done

structure BranchRepo where
  fullName : String

/-- One end of a pull request. Its repository is null if the fork is gone. -/
structure PullBranch where
  ref : String
  sha : String
  repo : Option BranchRepo

def PullBranch.shape : Shape PullBranch :=
  .record "PrRef" PullBranch.mk <|
    .required "ref" .text <|
    .required "sha" .text <|
    .optional "repo"
      (.record "PrRepo" BranchRepo.mk <|
        .required "full_name" .text .done) .done

structure Pull where
  number : Nat
  title : String
  body : Option String
  state : String
  merged : Option Bool
  link : Url
  user : Account
  labels : List Label
  head : PullBranch
  base : PullBranch

def Pull.shape : Shape Pull :=
  .record "PullRequest" Pull.mk <|
    .required "number" (.natural 64) <|
    .required "title" .text <|
    .optional "body" .text <|
    .required "state" .text <|
    .optional "merged" .flag <|
    .required "html_url" .link <|
    .required "user" Account.shape <|
    .defaulted "labels" [] (.list Label.shape) <|
    .required "head" PullBranch.shape <|
    .required "base" PullBranch.shape .done

structure PullPayload where
  action : String
  pull : Pull
  repo : Repo
  sender : Account

def PullPayload.shape : Shape PullPayload :=
  .record "PullRequestEvent" PullPayload.mk <|
    .required "action" .text <|
    .required "pull_request" Pull.shape <|
    .required "repository" Repo.shape <|
    .required "sender" Account.shape .done

structure PullCommentPayload where
  action : String
  pull : Pull
  comment : Remark
  repo : Repo
  sender : Account

def PullCommentPayload.shape : Shape PullCommentPayload :=
  .record "PullRequestReviewCommentEvent" PullCommentPayload.mk <|
    .required "action" .text <|
    .required "pull_request" Pull.shape <|
    .required "comment" Remark.shape <|
    .required "repository" Repo.shape <|
    .required "sender" Account.shape .done

structure Verdict where
  id : Nat
  body : Option String
  state : String
  link : Url
  user : Account

def Verdict.shape : Shape Verdict :=
  .record "Review" Verdict.mk <|
    .required "id" (.natural 64) <|
    .optional "body" .text <|
    .required "state" .text <|
    .required "html_url" .link <|
    .required "user" Account.shape .done

structure ReviewPayload where
  action : String
  pull : Pull
  review : Verdict
  repo : Repo
  sender : Account

def ReviewPayload.shape : Shape ReviewPayload :=
  .record "PullRequestReviewEvent" ReviewPayload.mk <|
    .required "action" .text <|
    .required "pull_request" Pull.shape <|
    .required "review" Verdict.shape <|
    .required "repository" Repo.shape <|
    .required "sender" Account.shape .done

end WebhookRelay.GitHub
