import WebhookRelay.Dialect

/-!
The payloads that GitLab sends, as far as they are converted.
-/

namespace WebhookRelay.GitLab

open Payload

/-- The visibility is 0 for private, 10 for internal and 20 for public projects. -/
structure Project where
  id : Nat
  path : String
  branch : Option String
  link : String
  clone : String
  cloneSsh : String
  visibility : Nat

def Project.shape : Shape Project :=
  .record "Project" Project.mk <|
    .required "id" (.natural 64) <|
    .required "path_with_namespace" .text <|
    .optional "default_branch" .text <|
    .defaulted "web_url" "" .text <|
    .defaulted "git_http_url" "" .text <|
    .defaulted "git_ssh_url" "" .text <|
    .defaulted "visibility_level" 0 (.natural 8) .done

structure Account where
  username : String
  name : String
  email : Option String
  avatar : Option String

def Account.shape : Shape Account :=
  .record "GitLabUser" Account.mk <|
    .required "username" .text <|
    .defaulted "name" "" .text <|
    .optional "email" .text <|
    .optional "avatar_url" .text .done

structure Author where
  name : String
  email : Option String

def Author.shape : Shape Author :=
  .record "CommitAuthor" Author.mk <|
    .required "name" .text <|
    .optional "email" .text .done

structure PushedCommit where
  id : String
  message : String
  time : Option Timestamp
  link : String
  author : Author

def PushedCommit.shape : Shape PushedCommit :=
  .record "Commit" PushedCommit.mk <|
    .required "id" .text <|
    .required "message" .text <|
    .optional "timestamp" .time <|
    .defaulted "url" "" .text <|
    .required "author" Author.shape .done

/-- Branches and tags are pushed, created and deleted with one payload. -/
structure PushPayload where
  kind : String
  before : String
  after : String
  ref : String
  checkout : Option String
  userName : String
  userLogin : String
  userEmail : Option String
  userAvatar : Option String
  project : Project
  commits : List PushedCommit

def PushPayload.shape : Shape PushPayload :=
  .record "PushHook" PushPayload.mk <|
    .required "object_kind" .text <|
    .required "before" .text <|
    .required "after" .text <|
    .required "ref" .text <|
    .optional "checkout_sha" .text <|
    .defaulted "user_name" "" .text <|
    .required "user_username" .text <|
    .optional "user_email" .text <|
    .optional "user_avatar" .text <|
    .required "project" Project.shape <|
    .defaulted "commits" [] (.list PushedCommit.shape) .done

structure Label where
  title : String

def Label.shape : Shape Label :=
  .record "Label" Label.mk <|
    .required "title" .text .done

structure IssueItem where
  number : Nat
  title : String
  description : Option String
  state : String
  action : Option String
  link : String

def IssueItem.shape : Shape IssueItem :=
  .record "IssueAttributes" IssueItem.mk <|
    .required "iid" (.natural 64) <|
    .required "title" .text <|
    .optional "description" .text <|
    .required "state" .text <|
    .optional "action" .text <|
    .defaulted "url" "" .text .done

structure IssuePayload where
  user : Account
  project : Project
  issue : IssueItem
  labels : Option (List Label)

def IssuePayload.shape : Shape IssuePayload :=
  .record "IssueHook" IssuePayload.mk <|
    .required "user" Account.shape <|
    .required "project" Project.shape <|
    .required "object_attributes" IssueItem.shape <|
    .optional "labels" (.list Label.shape) .done

structure LastCommit where
  id : String

structure SourceProject where
  path : String

/-- The old revision comes with updates that pushed commits. -/
structure MergeRequest where
  number : Nat
  title : String
  description : Option String
  state : String
  action : Option String
  link : String
  source : String
  target : String
  lastCommit : Option LastCommit
  sourceProject : Option SourceProject
  oldRevision : Option String

def MergeRequest.shape : Shape MergeRequest :=
  .record "MergeRequestAttributes" MergeRequest.mk <|
    .required "iid" (.natural 64) <|
    .required "title" .text <|
    .optional "description" .text <|
    .required "state" .text <|
    .optional "action" .text <|
    .defaulted "url" "" .text <|
    .required "source_branch" .text <|
    .required "target_branch" .text <|
    .optional "last_commit"
      (.record "LastCommit" LastCommit.mk <|
        .required "id" .text .done) <|
    .optional "source"
      (.record "SourceProject" SourceProject.mk <|
        .required "path_with_namespace" .text .done) <|
    .optional "oldrev" .text .done

structure MergeRequestPayload where
  user : Account
  project : Project
  mergeRequest : MergeRequest
  labels : Option (List Label)

def MergeRequestPayload.shape : Shape MergeRequestPayload :=
  .record "MergeRequestHook" MergeRequestPayload.mk <|
    .required "user" Account.shape <|
    .required "project" Project.shape <|
    .required "object_attributes" MergeRequest.shape <|
    .optional "labels" (.list Label.shape) .done

structure Note where
  id : Nat
  text : String
  target : String
  action : Option String
  link : String

def Note.shape : Shape Note :=
  .record "NoteAttributes" Note.mk <|
    .required "id" (.natural 64) <|
    .required "note" .text <|
    .required "noteable_type" .text <|
    .optional "action" .text <|
    .defaulted "url" "" .text .done

/-- What the note is on stands in one of the last two fields. -/
structure NotePayload where
  user : Account
  project : Project
  note : Note
  issue : Option IssueItem
  mergeRequest : Option MergeRequest

def NotePayload.shape : Shape NotePayload :=
  .record "NoteHook" NotePayload.mk <|
    .required "user" Account.shape <|
    .required "project" Project.shape <|
    .required "object_attributes" Note.shape <|
    .optional "issue" IssueItem.shape <|
    .optional "merge_request" MergeRequest.shape .done

end WebhookRelay.GitLab
