import WebhookRelay.Dialect.Gitea

/-!
The Gogs dialect. Its payloads are those of Gitea, but for pull requests, which name their
branches directly.
-/

namespace WebhookRelay.Gogs

open Dialect Payload

structure Pull where
  number : Nat
  user : Gitea.Account
  title : String
  body : String
  labels : Option (List Gitea.Label)
  state : String
  link : String
  merged : Bool
  mergedSha : Option String
  head : String
  headRepo : Option Gitea.BranchRepo
  base : String

def Pull.shape : Shape Pull :=
  .record "PullRequest" Pull.mk <|
    .required "number" (.natural 64) <|
    .required "user" Gitea.Account.shape <|
    .required "title" .text <|
    .defaulted "body" "" .text <|
    .optional "labels" (.list Gitea.Label.shape) <|
    .required "state" .text <|
    .defaulted "html_url" "" .text <|
    .defaulted "merged" false .flag <|
    .optional "merged_commit_id" .text <|
    .required "head_branch" .text <|
    .optional "head_repo"
      (.record "HeadRepo" Gitea.BranchRepo.mk <|
        .required "full_name" .text .done) <|
    .required "base_branch" .text .done

structure PullPayload where
  action : String
  pull : Pull
  repo : Gitea.Repo
  sender : Gitea.Account

def PullPayload.shape : Shape PullPayload :=
  .record "PullRequestHook" PullPayload.mk <|
    .required "action" .text <|
    .required "pull_request" Pull.shape <|
    .required "repository" Gitea.Repo.shape <|
    .required "sender" Gitea.Account.shape .done

/-- The hash is that of the merge commit. -/
def Pull.toPullRequest (p : Pull) : PullRequest where
  number := p.number
  title := p.title
  body := p.body
  sha := p.mergedSha.getD ""
  ref := pullRef p.number
  source := p.head
  target := p.base
  fork := (p.headRepo.map Gitea.BranchRepo.fullName).getD ""
  link := p.link
  labels := Gitea.labelNames p.labels
  closed := p.state == "closed"
  merged := p.merged
  author := p.user.toUser

def PullPayload.toEvent (p : PullPayload) : Event where
  subject := .pullRequest (.ofVerb p.action) p.pull.toPullRequest
  repo := p.repo.toRepository
  sender := p.sender.toUser

/-- The events whose payloads are those of Gitea. -/
def sharedTopics : List (String × Gitea.Topic) := [
  ("push", .push),
  ("create", .create),
  ("delete", .delete),
  ("issues", .issue),
  ("issue_comment", .issueComment)]

def decode (event : String) (body : List UInt8) : Except DecodeError Decoded :=
  match sharedTopics.lookup event with
  | some topic => Gitea.decodeTopic body topic
  | none =>
    if event = "pull_request" then do
      return { event := ← decodeAs PullPayload.shape (.ok ·.toEvent) body }
    else .error (.unknownEvent event)

def dialect : Dialect where
  eventHeader := "X-Gogs-Event"
  signatures := [{ name := "X-Gogs-Signature", scheme := .digest .sha256 none }]
  decode := decode

end WebhookRelay.Gogs
