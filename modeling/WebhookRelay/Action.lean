/-!
What a webhook event says was done, and the two tables that read a provider's verb.
-/

namespace WebhookRelay

inductive Action where
  | create
  | delete
  | update
  | open
  | reopen
  | close
  | label
  | unlabel
  | merge
  | sync
  | assigned
  | unassigned
  | submitted
  | dismissed
  | edited
  | unknown
  deriving DecidableEq, Repr

namespace Action

instance : Inhabited Action := ⟨unknown⟩

def name : Action → String
  | create => "create"
  | delete => "delete"
  | update => "update"
  | .open => "open"
  | reopen => "reopen"
  | close => "close"
  | label => "label"
  | unlabel => "unlabel"
  | merge => "merge"
  | sync => "sync"
  | assigned => "assigned"
  | unassigned => "unassigned"
  | submitted => "submitted"
  | dismissed => "dismissed"
  | edited => "edited"
  | unknown => "unknown"

def verbs : List (String × Action) := [
  ("create", create), ("created", create),
  ("delete", delete), ("deleted", delete),
  ("update", update), ("updated", update), ("edit", update), ("edited", update),
  ("open", .open), ("opened", .open),
  ("reopen", reopen), ("reopened", reopen),
  ("close", close), ("closed", close),
  ("label", label), ("labeled", label), ("label_updated", label),
  ("unlabel", unlabel), ("unlabeled", unlabel), ("label_cleared", unlabel),
  ("merge", merge), ("merged", merge),
  ("synchronize", sync), ("synchronized", sync),
  ("assigned", assigned),
  ("unassigned", unassigned),
  ("reviewed", submitted), ("submitted", submitted),
  ("dismissed", dismissed)]

/-- A review delivery tells what became of the review, so an edit of it is not an update. -/
def reviewVerbs : List (String × Action) := [
  ("submitted", submitted),
  ("edited", edited),
  ("dismissed", dismissed),
  ("pull_request_review_approved", submitted),
  ("pull_request_review_comment", edited),
  ("pull_request_review_rejected", dismissed)]

/-- Verbs are matched as written. One that the table does not hold is `unknown`. -/
def ofVerb (verb : String) : Action := (verbs.lookup verb).getD unknown

def ofReviewVerb (verb : String) : Action := (reviewVerbs.lookup verb).getD unknown

end Action

end WebhookRelay
