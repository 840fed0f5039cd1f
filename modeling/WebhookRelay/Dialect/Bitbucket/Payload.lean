import WebhookRelay.Dialect

/-!
The payloads that Bitbucket sends, as far as they are converted.
-/

namespace WebhookRelay.Bitbucket

open Payload

structure Link where
  href : String := ""

def Link.shape : Shape Link :=
  .record "Link" Link.mk <|
    .defaulted "href" "" .text .done

structure Links where
  html : Link := {}
  avatar : Link := {}

def Links.shape : Shape Links :=
  .record "Links" Links.mk <|
    .defaulted "html" {} Link.shape <|
    .defaulted "avatar" {} Link.shape .done

structure Account where
  displayName : String
  nickname : Option String
  links : Links

def Account.shape : Shape Account :=
  .record "Account" Account.mk <|
    .defaulted "display_name" "" .text <|
    .optional "nickname" .text <|
    .defaulted "links" {} Links.shape .done

structure Branch where
  name : String

def Branch.shape : Shape Branch :=
  .record "MainBranch" Branch.mk <|
    .required "name" .text .done

structure Repo where
  uuid : String
  fullName : String
  isPrivate : Bool
  branch : Option Branch
  links : Links

def Repo.shape : Shape Repo :=
  .record "Repository" Repo.mk <|
    .required "uuid" .text <|
    .required "full_name" .text <|
    .defaulted "is_private" false .flag <|
    .optional "mainbranch" Branch.shape <|
    .defaulted "links" {} Links.shape .done

/-- Who made a commit, as it records it. The account is there if the email belongs to one. -/
structure Author where
  raw : String
  user : Option Account

def Author.shape : Shape Author :=
  .record "Author" Author.mk <|
    .defaulted "raw" "" .text <|
    .optional "user" Account.shape .done

structure PushedCommit where
  hash : String
  message : String
  date : Option Timestamp
  author : Option Author
  links : Links

def PushedCommit.shape : Shape PushedCommit :=
  .record "Commit" PushedCommit.mk <|
    .required "hash" .text <|
    .defaulted "message" "" .text <|
    .optional "date" .time <|
    .optional "author" Author.shape <|
    .defaulted "links" {} Links.shape .done

/-- A branch or a tag at one end of a push. -/
structure RefState where
  type : String
  name : String
  target : PushedCommit

def RefState.shape : Shape RefState :=
  .record "RefState" RefState.mk <|
    .required "type" .text <|
    .required "name" .text <|
    .required "target" PushedCommit.shape .done

structure Change where
  new : Option RefState
  old : Option RefState
  created : Bool
  closed : Bool
  commits : List PushedCommit
  links : Links

def Change.shape : Shape Change :=
  .record "Change" Change.mk <|
    .optional "new" RefState.shape <|
    .optional "old" RefState.shape <|
    .defaulted "created" false .flag <|
    .defaulted "closed" false .flag <|
    .defaulted "commits" [] (.list PushedCommit.shape) <|
    .defaulted "links" {} Links.shape .done

structure Changes where
  changes : List Change

structure PushPayload where
  actor : Account
  repo : Repo
  push : Changes

def PushPayload.shape : Shape PushPayload :=
  .record "PushEvent" PushPayload.mk <|
    .required "actor" Account.shape <|
    .required "repository" Repo.shape <|
    .required "push"
      (.record "Push" Changes.mk <|
        .defaulted "changes" [] (.list Change.shape) .done) .done

structure EndCommit where
  hash : String

structure EndRepo where
  fullName : String

/-- One end of a pull request. -/
structure Endpoint where
  branch : Branch
  commit : Option EndCommit
  repo : Option EndRepo

def Endpoint.shape : Shape Endpoint :=
  .record "Endpoint" Endpoint.mk <|
    .required "branch" Branch.shape <|
    .optional "commit"
      (.record "CommitHash" EndCommit.mk <|
        .required "hash" .text .done) <|
    .optional "repository"
      (.record "EndpointRepository" EndRepo.mk <|
        .required "full_name" .text .done) .done

structure Pull where
  id : Nat
  title : String
  description : String
  state : String
  author : Account
  source : Endpoint
  target : Endpoint
  links : Links

def Pull.shape : Shape Pull :=
  .record "PullRequest" Pull.mk <|
    .required "id" (.natural 64) <|
    .required "title" .text <|
    .defaulted "description" "" .text <|
    .required "state" .text <|
    .required "author" Account.shape <|
    .required "source" Endpoint.shape <|
    .required "destination" Endpoint.shape <|
    .defaulted "links" {} Links.shape .done

structure PullPayload where
  actor : Account
  repo : Repo
  pull : Pull

def PullPayload.shape : Shape PullPayload :=
  .record "PullRequestEvent" PullPayload.mk <|
    .required "actor" Account.shape <|
    .required "repository" Repo.shape <|
    .required "pullrequest" Pull.shape .done

structure Content where
  raw : String

structure Remark where
  id : Nat
  content : Content
  user : Account
  links : Links

def Remark.shape : Shape Remark :=
  .record "Comment" Remark.mk <|
    .required "id" (.natural 64) <|
    .required "content"
      (.record "Content" Content.mk <|
        .defaulted "raw" "" .text .done) <|
    .required "user" Account.shape <|
    .defaulted "links" {} Links.shape .done

structure PullCommentPayload where
  actor : Account
  repo : Repo
  pull : Pull
  comment : Remark

def PullCommentPayload.shape : Shape PullCommentPayload :=
  .record "PullRequestCommentEvent" PullCommentPayload.mk <|
    .required "actor" Account.shape <|
    .required "repository" Repo.shape <|
    .required "pullrequest" Pull.shape <|
    .required "comment" Remark.shape .done

end WebhookRelay.Bitbucket
