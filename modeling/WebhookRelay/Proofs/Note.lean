import WebhookRelay.Proofs.Decoding
import WebhookRelay.Proofs.Payload.Exchange

/-!
A note tells by a word what it is on, and brings that along. What it brings along of another kind
is never looked at.
-/

namespace WebhookRelay.GitLab

/-- What is done to a note, which is new if that is not told. -/
inductive NoteActs : (verb : Option String) → Action → Prop
  | untold : NoteActs none .create
  | told (verb : String) : NoteActs (some verb) (.ofVerb verb)

def NotePayload.comment (p : NotePayload) : Comment where
  id := p.note.id
  body := p.note.text
  author := p.user.toUser
  link := p.note.link

/-- What a note tells: a comment on what it brings along of its kind, or that this is missing. -/
inductive TellsNote (p : NotePayload) : Except DecodeError Subject → Prop
  | onIssue {item : IssueItem} {action : Action} {issue : Issue} (ht : p.note.target = "Issue")
      (hi : p.issue = some item) (ha : NoteActs p.note.action action)
      (he : issue = item.toIssue none p.user.toUser) (hl : issue.labels = [])
      (hu : issue.author = p.user.toUser) :
      TellsNote p (.ok (.issueComment action issue p.comment))
  | lacksIssue (ht : p.note.target = "Issue") (hi : p.issue = none) :
      TellsNote p (.error (.malformed (.lacks "issue note" "issue")))
  | onMergeRequest {item : MergeRequest} {action : Action} {pull : PullRequest}
      (ht : p.note.target = "MergeRequest") (hi : p.mergeRequest = some item)
      (ha : NoteActs p.note.action action) (he : pull = item.toPullRequest none p.user.toUser)
      (hl : pull.labels = []) (hu : pull.author = p.user.toUser) :
      TellsNote p (.ok (.pullRequestComment action pull p.comment))
  | lacksMergeRequest (ht : p.note.target = "MergeRequest") (hi : p.mergeRequest = none) :
      TellsNote p (.error (.malformed (.lacks "merge request note" "merge request")))
  | unknown (hi : p.note.target ≠ "Issue") (hm : p.note.target ≠ "MergeRequest") :
      TellsNote p (.error (.unknownEvent p.note.target))

theorem noteActs_of_map (verb : Option String) :
    NoteActs verb ((verb.map Action.ofVerb).getD .create) :=
  match verb with
  | none => .untold
  | some verb => .told verb

theorem NotePayload.exists_tells (p : NotePayload) :
    ∃ result, TellsNote p result ∧ p.toEvent = result.map fun subject =>
      { subject, repo := p.project.toRepository, sender := p.user.toUser } := by
  have ha := noteActs_of_map p.note.action
  unfold NotePayload.toEvent
  split
  · next ht =>
    cases hi : p.issue with
    | none => exact ⟨_, .lacksIssue ht hi, rfl⟩
    | some item => exact ⟨_, .onIssue ht hi ha rfl rfl rfl, rfl⟩
  · next ht =>
    cases hi : p.mergeRequest with
    | none => exact ⟨_, .lacksMergeRequest ht hi, rfl⟩
    | some item => exact ⟨_, .onMergeRequest ht hi ha rfl rfl rfl, rfl⟩
  · next hi hm => exact ⟨_, .unknown hi hm, rfl⟩

theorem NotePayload.toEvent_issue {p : NotePayload} (ht : p.note.target ≠ "Issue")
    (issue : Option IssueItem) : { p with issue }.toEvent = p.toEvent := by
  -- Both sides branch on the same target, and only one of the branches has an issue in it.
  simp only [NotePayload.toEvent]
  split
  · next hi => exact absurd hi ht
  · rfl
  · rfl

theorem NotePayload.toEvent_mergeRequest {p : NotePayload} (ht : p.note.target ≠ "MergeRequest")
    (mergeRequest : Option MergeRequest) : { p with mergeRequest }.toEvent = p.toEvent := by
  simp only [NotePayload.toEvent]
  split
  · rfl
  · next hm => exact absurd hm ht
  · rfl

section Parts

open Payload

variable {body other : List UInt8} {p : NotePayload} {part new : Option Node}

theorem NotePayload.exists_parse_issue (hp : NotePayload.shape.parse body = .ok p)
    (h : Exchanges ⟨NotePayload.shape⟩ ["issue"] part new body other)
    (ht : (∃ x, IssueItem.shape.optional? part = some x) →
      ∃ x, IssueItem.shape.optional? new = some x) :
    ∃ issue, IssueItem.shape.optional? part = some p.issue ∧
      IssueItem.shape.optional? new = some issue ∧
      NotePayload.shape.parse other = .ok { p with issue } := by
  obtain ⟨q, hq, hd⟩ := exists_parse_exchanged h ht hp
  simp only [Fields.Differ, Fields.Same, String.reduceEq, if_false, if_true] at hd
  obtain ⟨user, project, note, x, y, hx, hy, mergeRequest, rfl, rfl⟩ := hd
  exact ⟨y, hx, hy, hq⟩

theorem NotePayload.exists_parse_mergeRequest (hp : NotePayload.shape.parse body = .ok p)
    (h : Exchanges ⟨NotePayload.shape⟩ ["merge_request"] part new body other)
    (ht : (∃ x, MergeRequest.shape.optional? part = some x) →
      ∃ x, MergeRequest.shape.optional? new = some x) :
    ∃ mergeRequest, MergeRequest.shape.optional? part = some p.mergeRequest ∧
      MergeRequest.shape.optional? new = some mergeRequest ∧
      NotePayload.shape.parse other = .ok { p with mergeRequest } := by
  obtain ⟨q, hq, hd⟩ := exists_parse_exchanged h ht hp
  simp only [Fields.Differ, Fields.Same, String.reduceEq, if_false, if_true] at hd
  obtain ⟨user, project, note, issue, x, y, hx, hy, rfl, rfl⟩ := hd
  exact ⟨y, hx, hy, hq⟩

theorem NotePayload.optional?_action (hp : NotePayload.shape.parse body = .ok p)
    (h : Has ⟨NotePayload.shape⟩ ["object_attributes", "action"] part body) :
    Shape.text.optional? part = some p.note.action := by
  obtain ⟨q, a, b, -, hout, hin⟩ := exists_parse_inner h rfl (fun _ => Iff.rfl) (fun ht => ht) hp
  simp only [Fields.Differ, Fields.Same, String.reduceEq, if_false, if_true] at hout hin
  obtain ⟨user, project, note, changed, ha, hb, issue, mergeRequest, rfl, rfl⟩ := hout
  obtain ⟨number, text, target, action, _, hx, _, link, rfl, rfl⟩ := hin note changed ha hb
  exact hx

end Parts

section Decode

open Payload

variable {body : List UInt8} {p : NotePayload}

theorem decode_note (hp : NotePayload.shape.parse body = .ok p) :
    GitLab.dialect.decode "Note Hook" body = p.toEvent.map fun event => { event } := by
  have hd : Provider.gitlab.dialect? = some GitLab.dialect := rfl
  have hr : Provider.gitlab.reading? "Note Hook" = some (GitLab.reading .note) := rfl
  exact decode_of_parse hd hr hp

/-- A note is told as a comment on what it brings along of the kind that it names, is malformed
without that, and unknown if it names another kind. What it brings along of a kind that it does not
name can be exchanged for any other of that kind, or be left out. -/
theorem note_told_by_target (hp : NotePayload.shape.parse body = .ok p) :
    (∃ result, TellsNote p result ∧ GitLab.dialect.decode "Note Hook" body =
      result.map (Subject.told p.project.toRepository p.user.toUser)) ∧
    (p.note.target ≠ "Issue" → ∀ part new other,
      Exchanges ⟨NotePayload.shape⟩ ["issue"] part new body other →
      (∃ issue, IssueItem.shape.optional? new = some issue) →
      GitLab.dialect.decode "Note Hook" other = GitLab.dialect.decode "Note Hook" body) ∧
    (p.note.target ≠ "MergeRequest" → ∀ part new other,
      Exchanges ⟨NotePayload.shape⟩ ["merge_request"] part new body other →
      (∃ mergeRequest, MergeRequest.shape.optional? new = some mergeRequest) →
      GitLab.dialect.decode "Note Hook" other = GitLab.dialect.decode "Note Hook" body) ∧
    (∀ part, Has ⟨NotePayload.shape⟩ ["issue"] part body →
      (p.issue = none ↔ part = none ∨ part = some .null)) ∧
    (∀ part, Has ⟨NotePayload.shape⟩ ["merge_request"] part body →
      (p.mergeRequest = none ↔ part = none ∨ part = some .null)) ∧
    (∀ part, Has ⟨NotePayload.shape⟩ ["object_attributes", "action"] part body →
      (p.note.action = none ↔ part = none ∨ part = some .null)) := by
  refine ⟨?_, fun ht part new other h hn => ?_, fun ht part new other h hn => ?_,
    fun part h => ?_, fun part h => ?_, fun part h => ?_⟩
  · obtain ⟨result, hr, he⟩ := p.exists_tells
    have hd : Provider.gitlab.dialect? = some GitLab.dialect := rfl
    have hread : Provider.gitlab.reading? "Note Hook" = some (GitLab.reading .note) := rfl
    exact ⟨result, hr, decode_told hd hread hp he⟩
  · obtain ⟨issue, -, -, ho⟩ := NotePayload.exists_parse_issue hp h fun _ => hn
    rw [decode_note ho, decode_note hp, NotePayload.toEvent_issue ht]
  · obtain ⟨mergeRequest, -, -, ho⟩ := NotePayload.exists_parse_mergeRequest hp h fun _ => hn
    rw [decode_note ho, decode_note hp, NotePayload.toEvent_mergeRequest ht]
  · obtain ⟨-, hi, -, -⟩ := NotePayload.exists_parse_issue hp h fun ht => ht
    exact eq_none_iff_of_optional? hi
  · obtain ⟨-, hm, -, -⟩ := NotePayload.exists_parse_mergeRequest hp h fun ht => ht
    exact eq_none_iff_of_optional? hm
  · exact eq_none_iff_of_optional? (NotePayload.optional?_action hp h)

end Decode

section Example

open Payload

/-- A note on a merge request that brings this along too. -/
def mergeRequestNote (more : String) : List UInt8 :=
  ["\x7b\"user\":\x7b\"username\":\"u\"\x7d,", "\"project\":\x7b\"id\":1,",
    "\"path_with_namespace\":\"o/n\"\x7d,", "\"object_attributes\":", "\x7b\"id\":1,\"note\":\"\",",
    "\"noteable_type\":\"MergeRequest\"\x7d,", "\"merge_request\":\x7b\"iid\":2,\"title\":\"\",",
    "\"state\":\"opened\",", "\"source_branch\":\"a\",", "\"target_branch\":\"b\"\x7d", more,
    "\x7d"].flatMap ascii

def noteMembers : List (Spelling × Node) :=
  [(ascii "user", .object [(ascii "username", .text (ascii "u"))] .closed),
    (ascii "project", .object [(ascii "id", .number (ascii "1")),
      (ascii "path_with_namespace", .text (ascii "o/n"))] .closed),
    (ascii "object_attributes", .object [(ascii "id", .number (ascii "1")),
      (ascii "note", .text []), (ascii "noteable_type", .text (ascii "MergeRequest"))] .closed),
    (ascii "merge_request", .object [(ascii "iid", .number (ascii "2")), (ascii "title", .text []),
      (ascii "state", .text (ascii "opened")), (ascii "source_branch", .text (ascii "a")),
      (ascii "target_branch", .text (ascii "b"))] .closed)]

def issueNode : Node :=
  .list [.number (ascii "3"), .text [], .null, .text (ascii "opened"), .null] .closed

set_option maxRecDepth 4000 in
theorem mergeRequestNote_scans : Says (mergeRequestNote "") (.object noteMembers .closed) :=
  Says.of_scan rfl

set_option maxRecDepth 4000 in
theorem mergeRequestNote_exchanges :
    Exchanges ⟨NotePayload.shape⟩ ["issue"] none (some issueNode) (mergeRequestNote "")
      (mergeRequestNote ",\"issue\":[3,\"\",null,\"opened\",null]") := by
  have ht : Says (mergeRequestNote ",\"issue\":[3,\"\",null,\"opened\",null]")
      (.object (noteMembers ++ [(ascii "issue", issueNode)]) .closed) := Says.of_scan rfl
  have hk : (ascii "issue").decode = .ok "issue" := by
    apply toOption_eq_some_iff.1
    decide +kernel
  have hm : ∀ member ∈ noteMembers ++ [], isUnder "issue" member = false := by decide +kernel
  exact ⟨_, _, mergeRequestNote_scans, ht, .here (exchanged_absent hk hm)⟩

theorem mergeRequestNote_told :
    (∃ p action pull, NotePayload.shape.parse (mergeRequestNote "") = .ok p ∧
      GitLab.dialect.decode "Note Hook" (mergeRequestNote "") =
        .ok (Subject.told p.project.toRepository p.user.toUser
          (.pullRequestComment action pull p.comment))) ∧
    GitLab.dialect.decode "Note Hook"
        (mergeRequestNote ",\"issue\":[3,\"\",null,\"opened\",null]") =
      GitLab.dialect.decode "Note Hook" (mergeRequestNote "") := by
  have hr : ((NotePayload.shape.read (.object noteMembers .closed)).toOption.map
      fun p => (p.note.target, p.mergeRequest.isSome)) = some ("MergeRequest", true) := by
    decide +kernel
  obtain ⟨p, hp, htold⟩ := Option.map_eq_some_iff.1 hr
  obtain ⟨ht, hm⟩ := Prod.mk.inj htold
  have hparse := (mergeRequestNote_scans.parse_eq _).trans (toOption_eq_some_iff.1 hp)
  have h := note_told_by_target hparse
  obtain ⟨result, hresult, hdecode⟩ := h.1
  have hissue : ∃ issue, IssueItem.shape.optional? (some issueNode) = some issue := by
    rw [← Option.isSome_iff_exists]
    decide +kernel
  have hi : p.note.target ≠ "Issue" := by
    rw [ht]
    decide
  refine ⟨⟨p, ?_⟩, h.2.1 hi _ _ _ mergeRequestNote_exchanges hissue⟩
  cases hresult with
  | onIssue h _ _ _ _ _ => exact absurd h hi
  | lacksIssue h _ => exact absurd h hi
  | onMergeRequest _ _ _ _ _ _ => exact ⟨_, _, hparse, hdecode⟩
  | lacksMergeRequest _ hn =>
    rw [hn] at hm
    cases hm
  | unknown _ h => exact absurd ht h

end Example

end WebhookRelay.GitLab
