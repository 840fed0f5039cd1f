import WebhookRelay.Dialect

/-!
The payloads that Bitbucket Server sends, as far as they are converted.
-/

namespace WebhookRelay.Stash

open Payload

/-- The name of a clone link is its protocol. -/
structure Link where
  href : String
  name : String

def Link.shape : Shape Link :=
  .record "Link" Link.mk <|
    .defaulted "href" "" .text <|
    .defaulted "name" "" .text .done

structure Links where
  clone : List Link := []
  self : List Link := []

def Links.shape : Shape Links :=
  .record "Links" Links.mk <|
    .defaulted "clone" [] (.list Link.shape) <|
    .defaulted "self" [] (.list Link.shape) .done

structure Account where
  name : String
  slug : String
  displayName : String
  email : Option String

def Account.shape : Shape Account :=
  .record "StashUser" Account.mk <|
    .required "name" .text <|
    .defaulted "slug" "" .text <|
    .defaulted "displayName" "" .text <|
    .optional "emailAddress" .text .done

structure Project where
  key : String

def Project.shape : Shape Project :=
  .record "Project" Project.mk <|
    .required "key" .text .done

structure Repo where
  id : Nat
  slug : String
  project : Project
  isPublic : Bool
  links : Links

def Repo.shape : Shape Repo :=
  .record "Repository" Repo.mk <|
    .required "id" (.natural 64) <|
    .required "slug" .text <|
    .required "project" Project.shape <|
    .defaulted "public" false .flag <|
    .defaulted "links" {} Links.shape .done

/-- A reference by its full and its short name. -/
structure Ref where
  id : String
  displayId : String
  type : String

def Ref.shape : Shape Ref :=
  .record "Ref" Ref.mk <|
    .required "id" .text <|
    .required "displayId" .text <|
    .required "type" .text .done

structure Change where
  ref : Ref
  fromHash : String
  toHash : String
  type : String

def Change.shape : Shape Change :=
  .record "Change" Change.mk <|
    .required "ref" Ref.shape <|
    .required "fromHash" .text <|
    .required "toHash" .text <|
    .required "type" .text .done

structure RefsPayload where
  actor : Account
  repo : Repo
  changes : List Change

def RefsPayload.shape : Shape RefsPayload :=
  .record "RefsChangedEvent" RefsPayload.mk <|
    .required "actor" Account.shape <|
    .required "repository" Repo.shape <|
    .defaulted "changes" [] (.list Change.shape) .done

/-- One end of a pull request. -/
structure PullRef where
  displayId : String
  commit : String
  repo : Repo

def PullRef.shape : Shape PullRef :=
  .record "PrRef" PullRef.mk <|
    .required "displayId" .text <|
    .defaulted "latestCommit" "" .text <|
    .required "repository" Repo.shape .done

structure Participant where
  user : Account

def Participant.shape : Shape Participant :=
  .record "Participant" Participant.mk <|
    .required "user" Account.shape .done

structure Pull where
  id : Nat
  title : String
  description : String
  state : String
  source : PullRef
  target : PullRef
  author : Participant
  links : Links

def Pull.shape : Shape Pull :=
  .record "PullRequest" Pull.mk <|
    .required "id" (.natural 64) <|
    .required "title" .text <|
    .defaulted "description" "" .text <|
    .required "state" .text <|
    .required "fromRef" PullRef.shape <|
    .required "toRef" PullRef.shape <|
    .required "author" Participant.shape <|
    .defaulted "links" {} Links.shape .done

structure PullPayload where
  actor : Account
  pull : Pull

def PullPayload.shape : Shape PullPayload :=
  .record "PullRequestEvent" PullPayload.mk <|
    .required "actor" Account.shape <|
    .required "pullRequest" Pull.shape .done

structure Remark where
  id : Nat
  text : String
  author : Account

def Remark.shape : Shape Remark :=
  .record "Comment" Remark.mk <|
    .required "id" (.natural 64) <|
    .defaulted "text" "" .text <|
    .required "author" Account.shape .done

structure PullCommentPayload where
  actor : Account
  pull : Pull
  comment : Remark

def PullCommentPayload.shape : Shape PullCommentPayload :=
  .record "PullRequestCommentEvent" PullCommentPayload.mk <|
    .required "actor" Account.shape <|
    .required "pullRequest" Pull.shape <|
    .required "comment" Remark.shape .done

end WebhookRelay.Stash
