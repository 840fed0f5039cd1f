import WebhookRelay.Dialect

/-!
The payloads that Gitea sends, most of which Gogs sends too.
-/

namespace WebhookRelay.Gitea

open Payload

/-- Depending on the version, an account has a login, a username or both. -/
structure Account where
  login : String
  username : String
  fullName : String
  email : Option String
  avatar : String

def Account.shape : Shape Account :=
  .record "GiteaUser" Account.mk <|
    .defaulted "login" "" .text <|
    .defaulted "username" "" .text <|
    .defaulted "full_name" "" .text <|
    .optional "email" .text <|
    .defaulted "avatar_url" "" .text .done

structure Repo where
  id : Int
  owner : Account
  name : String
  isPrivate : Bool
  link : String
  clone : String
  cloneSsh : String
  branch : String

def Repo.shape : Shape Repo :=
  .record "Repository" Repo.mk <|
    .required "id" (.integer 64) <|
    .required "owner" Account.shape <|
    .required "name" .text <|
    .defaulted "private" false .flag <|
    .defaulted "html_url" "" .text <|
    .defaulted "clone_url" "" .text <|
    .defaulted "ssh_url" "" .text <|
    .defaulted "default_branch" "" .text .done

structure Author where
  name : String
  email : Option String
  username : String

def Author.shape : Shape Author :=
  .record "CommitUser" Author.mk <|
    .defaulted "name" "" .text <|
    .optional "email" .text <|
    .defaulted "username" "" .text .done

structure PushedCommit where
  id : String
  message : String
  link : String
  author : Author
  committer : Author
  time : Option Timestamp

def PushedCommit.shape : Shape PushedCommit :=
  .record "Commit" PushedCommit.mk <|
    .required "id" .text <|
    .required "message" .text <|
    .defaulted "url" "" .text <|
    .required "author" Author.shape <|
    .required "committer" Author.shape <|
    .optional "timestamp" .time .done

/-- The commits are null if nothing was pushed. -/
structure PushPayload where
  secret : Option String
  ref : String
  before : String
  after : String
  compare : String
  commits : Option (List PushedCommit)
  repo : Repo
  pusher : Account
  sender : Account

def PushPayload.shape : Shape PushPayload :=
  .record "PushHook" PushPayload.mk <|
    .optional "secret" .text <|
    .required "ref" .text <|
    .required "before" .text <|
    .required "after" .text <|
    .defaulted "compare_url" "" .text <|
    .optional "commits" (.list PushedCommit.shape) <|
    .required "repository" Repo.shape <|
    .required "pusher" Account.shape <|
    .required "sender" Account.shape .done

/-- A reference that was created or deleted. -/
structure RefPayload where
  ref : String
  refType : String
  sha : Option String
  repo : Repo
  sender : Account

def RefPayload.shape : Shape RefPayload :=
  .record "CreateHook" RefPayload.mk <|
    .required "ref" .text <|
    .required "ref_type" .text <|
    .optional "sha" .text <|
    .required "repository" Repo.shape <|
    .required "sender" Account.shape .done

structure Label where
  name : String

def Label.shape : Shape Label :=
  .record "Label" Label.mk <|
    .required "name" .text .done

/-- What marks an issue as a pull request. -/
structure PullMark where
  merged : Bool

def PullMark.shape : Shape PullMark :=
  .record "PullRequestMeta" PullMark.mk <|
    .defaulted "merged" false .flag .done

structure IssueItem where
  number : Nat
  user : Account
  title : String
  body : String
  labels : Option (List Label)
  state : String
  link : String
  pull : Option PullMark

def IssueItem.shape : Shape IssueItem :=
  .record "Issue" IssueItem.mk <|
    .required "number" (.natural 64) <|
    .required "user" Account.shape <|
    .required "title" .text <|
    .defaulted "body" "" .text <|
    .optional "labels" (.list Label.shape) <|
    .required "state" .text <|
    .defaulted "html_url" "" .text <|
    .optional "pull_request" PullMark.shape .done

structure IssuePayload where
  action : String
  issue : IssueItem
  repo : Repo
  sender : Account

def IssuePayload.shape : Shape IssuePayload :=
  .record "IssueHook" IssuePayload.mk <|
    .required "action" .text <|
    .required "issue" IssueItem.shape <|
    .required "repository" Repo.shape <|
    .required "sender" Account.shape .done

structure Remark where
  id : Nat
  link : String
  user : Account
  body : String

def Remark.shape : Shape Remark :=
  .record "Comment" Remark.mk <|
    .required "id" (.natural 64) <|
    .defaulted "html_url" "" .text <|
    .required "user" Account.shape <|
    .required "body" .text .done

structure IssueCommentPayload where
  action : String
  issue : IssueItem
  comment : Remark
  repo : Repo
  sender : Account

def IssueCommentPayload.shape : Shape IssueCommentPayload :=
  .record "IssueCommentHook" IssueCommentPayload.mk <|
    .required "action" .text <|
    .required "issue" IssueItem.shape <|
    .required "comment" Remark.shape <|
    .required "repository" Repo.shape <|
    .required "sender" Account.shape .done

structure BranchRepo where
  fullName : String

/-- One end of a pull request. -/
structure PullBranch where
  ref : String
  sha : String
  repo : Option BranchRepo

def PullBranch.shape : Shape PullBranch :=
  .record "PrBranch" PullBranch.mk <|
    .required "ref" .text <|
    .required "sha" .text <|
    .optional "repo"
      (.record "PrRepo" BranchRepo.mk <|
        .required "full_name" .text .done) .done

structure Pull where
  number : Nat
  user : Account
  title : String
  body : String
  labels : Option (List Label)
  state : String
  link : String
  merged : Bool
  head : PullBranch
  base : PullBranch

def Pull.shape : Shape Pull :=
  .record "PullRequest" Pull.mk <|
    .required "number" (.natural 64) <|
    .required "user" Account.shape <|
    .required "title" .text <|
    .defaulted "body" "" .text <|
    .optional "labels" (.list Label.shape) <|
    .required "state" .text <|
    .defaulted "html_url" "" .text <|
    .defaulted "merged" false .flag <|
    .required "head" PullBranch.shape <|
    .required "base" PullBranch.shape .done

structure PullPayload where
  action : String
  pull : Pull
  repo : Repo
  sender : Account

def PullPayload.shape : Shape PullPayload :=
  .record "PullRequestHook" PullPayload.mk <|
    .required "action" .text <|
    .required "pull_request" Pull.shape <|
    .required "repository" Repo.shape <|
    .required "sender" Account.shape .done

structure Verdict where
  type : String
  content : String

/-- The type of a review tells what it came to. -/
structure ReviewPayload where
  pull : Pull
  repo : Repo
  sender : Account
  review : Verdict

def ReviewPayload.shape : Shape ReviewPayload :=
  .record "ReviewHook" ReviewPayload.mk <|
    .required "pull_request" Pull.shape <|
    .required "repository" Repo.shape <|
    .required "sender" Account.shape <|
    .required "review"
      (.record "ReviewPayload" Verdict.mk <|
        .required "type" .text <|
        .defaulted "content" "" .text .done) .done

end WebhookRelay.Gitea
