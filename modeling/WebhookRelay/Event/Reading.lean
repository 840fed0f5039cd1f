import WebhookRelay.Event
import WebhookRelay.Json.Reading
import WebhookRelay.Provider
import WebhookRelay.Timestamp.Reading

/-!
Reading events from their JSON records. Every part is looked up by its name, so the order of the
members does not count.
-/

namespace WebhookRelay

open Json Value

def Timestamp.ofJson? (v : Value) : Option Timestamp := do
  (Timestamp.parse (← v.str?)).toOption

def Repository.ofJson? (v : Value) : Option Repository := do
  return {
    id := ← v.field? str? "id"
    owner := ← v.field? str? "namespace"
    name := ← v.field? str? "name"
    branch := ← v.field? str? "branch"
    isPrivate := ← v.field? bool? "private"
    clone := ← v.field? str? "clone"
    cloneSsh := ← v.field? str? "clone_ssh"
    link := ← v.field? str? "link" }

def User.ofJson? (v : Value) : Option User := do
  return {
    login := ← v.field? str? "login"
    name := ← v.field? str? "name"
    email := ← v.field? (orNull? str?) "email"
    avatar := ← v.field? str? "avatar" }

def Identity.ofJson? (v : Value) : Option Identity := do
  return {
    login := ← v.field? str? "login"
    name := ← v.field? str? "name"
    email := ← v.field? (orNull? str?) "email"
    avatar := ← v.field? str? "avatar"
    date := ← v.field? (orNull? Timestamp.ofJson?) "date" }

def Reference.ofJson? (v : Value) : Option Reference := do
  return {
    name := ← v.field? str? "name"
    sha := ← v.field? (orNull? str?) "sha" }

def Commit.ofJson? (v : Value) : Option Commit := do
  return {
    sha := ← v.field? str? "sha"
    message := ← v.field? str? "message"
    author := ← v.field? Identity.ofJson? "author"
    committer := ← v.field? Identity.ofJson? "committer"
    link := ← v.field? str? "link" }

def Issue.ofJson? (v : Value) : Option Issue := do
  return {
    number := ← v.field? nat? "number"
    title := ← v.field? str? "title"
    body := ← v.field? str? "body"
    link := ← v.field? str? "link"
    labels := ← v.field? (items? str?) "labels"
    closed := ← v.field? bool? "closed"
    author := ← v.field? User.ofJson? "author" }

def PullRequest.ofJson? (v : Value) : Option PullRequest := do
  return {
    number := ← v.field? nat? "number"
    title := ← v.field? str? "title"
    body := ← v.field? str? "body"
    sha := ← v.field? str? "sha"
    ref := ← v.field? str? "ref"
    source := ← v.field? str? "source"
    target := ← v.field? str? "target"
    fork := ← v.field? str? "fork"
    link := ← v.field? str? "link"
    labels := ← v.field? (items? str?) "labels"
    closed := ← v.field? bool? "closed"
    merged := ← v.field? bool? "merged"
    author := ← v.field? User.ofJson? "author" }

def Comment.ofJson? (v : Value) : Option Comment := do
  return {
    id := ← v.field? nat? "id"
    body := ← v.field? str? "body"
    author := ← v.field? User.ofJson? "author"
    link := ← v.field? str? "link" }

def Review.ofJson? (v : Value) : Option Review := do
  return {
    id := ← v.field? nat? "id"
    body := ← v.field? str? "body"
    state := ← v.field? str? "state"
    author := ← v.field? User.ofJson? "author"
    link := ← v.field? str? "link" }

namespace Action

def all : List Action :=
  [create, delete, update, .open, reopen, close, label, unlabel, merge, sync, assigned, unassigned,
    submitted, dismissed, edited, unknown]

def ofName? (name : String) : Option Action := all.find? (·.name == name)

def ofJson? (v : Value) : Option Action := v.str?.bind ofName?

end Action

def Push.ofJson? (v : Value) : Option Push := do
  return {
    ref := ← v.field? str? "ref"
    before := ← v.field? str? "before"
    after := ← v.field? str? "after"
    compare := ← v.field? str? "compare"
    commit := ← v.field? Commit.ofJson? "commit"
    commits := ← v.field? (items? Commit.ofJson?) "commits" }

/-- The kind tells which parts there are. -/
def Subject.ofJson? (v : Value) : Option Subject := do
  let action := v.field? Action.ofJson? "action"
  match ← v.field? str? "kind" with
  | "push" => return .push (← Push.ofJson? v)
  | "branch" => return .branch (← v.field? Reference.ofJson? "ref") (← action)
  | "tag" => return .tag (← v.field? Reference.ofJson? "ref") (← action)
  | "issue" => return .issue (← action) (← v.field? Issue.ofJson? "issue")
  | "issue_comment" =>
    return .issueComment (← action) (← v.field? Issue.ofJson? "issue")
      (← v.field? Comment.ofJson? "comment")
  | "pull_request" =>
    return .pullRequest (← action) (← v.field? PullRequest.ofJson? "pull_request")
  | "pull_request_comment" =>
    return .pullRequestComment (← action) (← v.field? PullRequest.ofJson? "pull_request")
      (← v.field? Comment.ofJson? "comment")
  | "review" =>
    return .review (← action) (← v.field? PullRequest.ofJson? "pull_request")
      (← v.field? Review.ofJson? "review")
  | _ => none

def Event.ofJson? (v : Value) : Option Event := do
  return {
    subject := ← Subject.ofJson? v
    repo := ← v.field? Repository.ofJson? "repo"
    sender := ← v.field? User.ofJson? "sender" }

end WebhookRelay
