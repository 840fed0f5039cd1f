import WebhookRelay.Proofs.Payload.Exchange
import WebhookRelay.Proofs.Presentation

/-!
A comment on an issue and one on a pull request come under one name, and only a mark in the issue
tells them apart. With the mark the same payload is told as a pull request that is the issue.
-/

namespace WebhookRelay

/-- The pull request that an issue is, with what its mark tells. -/
def Issue.asPull (issue : Issue) (link : String) (merged : Bool) : PullRequest where
  number := issue.number
  title := issue.title
  body := issue.body
  sha := ""
  ref := "refs/pull/" ++ toString issue.number ++ "/head"
  source := ""
  target := ""
  fork := ""
  link := link
  labels := issue.labels
  closed := issue.closed
  merged := merged
  author := issue.author

/-- What a mark tells of its pull request: a link in the place of that of the issue, if any, and
whether it was merged. -/
inductive MarkTells : Provider → Payload.Node → Option String → (merged : Bool) → Prop
  | gitHub {node : Payload.Node} {mark : GitHub.PullMark}
      (h : GitHub.PullMark.shape.read node = .ok mark) :
      MarkTells .github node (some mark.link.toText) false
  | gitea {provider : Provider} {node : Payload.Node} {mark : Gitea.PullMark}
      (hv : provider = .gitea ∨ provider = .gogs)
      (h : Gitea.PullMark.shape.read node = .ok mark) : MarkTells provider node none mark.merged

/-- Two results that are the same event, but that a comment on an issue in the first is one on the
pull request that the issue is in the second. -/
inductive Turns (link : Option String) (merged : Bool) : Decoded → Decoded → Prop
  | comment {repo : Repository} {sender : User} {action : Action} {issue : Issue}
      {comment : Comment} :
      Turns link merged (Subject.told repo sender (.issueComment action issue comment))
        (Subject.told repo sender
          (.pullRequestComment action (issue.asPull (link.getD issue.link) merged) comment))

section GitHub

variable {part : Option Payload.Node} {node : Payload.Node} {mark : GitHub.PullMark}

theorem GitHub.IssueCommentPayload.parse_marked {s t : List UInt8} {p : GitHub.IssueCommentPayload}
    (h : Payload.Exchanges ⟨GitHub.IssueCommentPayload.shape⟩ ["issue", "pull_request"] part
      (some node) s t)
    (hp : part = none ∨ part = some .null) (hm : GitHub.PullMark.shape.read node = .ok mark)
    (hs : GitHub.IssueCommentPayload.shape.parse s = .ok p) :
    p.issue.pull = none ∧ GitHub.IssueCommentPayload.shape.parse t =
      .ok { p with issue := { p.issue with pull := some mark } } := by
  have hn := Payload.optional?_of_read hm
  obtain ⟨q, a, b, hq, hout, hin⟩ :=
    Payload.exists_parse_inner h rfl (fun _ => Iff.rfl) (fun _ => ⟨_, hn⟩) hs
  simp only [Payload.Fields.Differ, Payload.Fields.Same, String.reduceEq, if_false, if_true]
    at hout hin
  obtain ⟨action, item, marked, ha, hb, comment, repo, sender, rfl, rfl⟩ := hout
  obtain ⟨_, _, _, _, _, _, _, missing, given, hx, hy, rfl, rfl⟩ := hin item marked ha hb
  obtain rfl : none = missing :=
    Option.some.inj ((Payload.optional?_missing hp).symm.trans hx)
  obtain rfl : some mark = given := Option.some.inj (hn.symm.trans hy)
  exact ⟨rfl, hq⟩

theorem GitHub.IssueCommentPayload.turns {p : GitHub.IssueCommentPayload}
    (hn : p.issue.pull = none) :
    Turns (some mark.link.toText) false { event := p.toEvent }
      { event := { p with issue := { p.issue with pull := some mark } }.toEvent } := by
  have he : p.toEvent =
      { subject := .issueComment (.ofVerb p.action) p.issue.toIssue p.comment.toComment
        repo := p.repo.toRepository
        sender := p.sender.toUser } := by
    simp only [GitHub.IssueCommentPayload.toEvent, hn]
  rw [he]
  exact .comment

end GitHub

section Gitea

variable {part : Option Payload.Node} {node : Payload.Node} {mark : Gitea.PullMark}

theorem Gitea.IssueCommentPayload.parse_marked {s t : List UInt8} {p : Gitea.IssueCommentPayload}
    (h : Payload.Exchanges ⟨Gitea.IssueCommentPayload.shape⟩ ["issue", "pull_request"] part
      (some node) s t)
    (hp : part = none ∨ part = some .null) (hm : Gitea.PullMark.shape.read node = .ok mark)
    (hs : Gitea.IssueCommentPayload.shape.parse s = .ok p) :
    p.issue.pull = none ∧ Gitea.IssueCommentPayload.shape.parse t =
      .ok { p with issue := { p.issue with pull := some mark } } := by
  have hn := Payload.optional?_of_read hm
  obtain ⟨q, a, b, hq, hout, hin⟩ :=
    Payload.exists_parse_inner h rfl (fun _ => Iff.rfl) (fun _ => ⟨_, hn⟩) hs
  simp only [Payload.Fields.Differ, Payload.Fields.Same, String.reduceEq, if_false, if_true]
    at hout hin
  obtain ⟨action, item, marked, ha, hb, comment, repo, sender, rfl, rfl⟩ := hout
  obtain ⟨_, _, _, _, _, _, _, missing, given, hx, hy, rfl, rfl⟩ := hin item marked ha hb
  obtain rfl : none = missing :=
    Option.some.inj ((Payload.optional?_missing hp).symm.trans hx)
  obtain rfl : some mark = given := Option.some.inj (hn.symm.trans hy)
  exact ⟨rfl, hq⟩

theorem Gitea.IssueCommentPayload.turns {p : Gitea.IssueCommentPayload}
    (hn : p.issue.pull = none) :
    Turns none mark.merged { event := p.toEvent }
      { event := { p with issue := { p.issue with pull := some mark } }.toEvent } := by
  have he : p.toEvent =
      { subject := .issueComment (.ofVerb p.action) p.issue.toIssue p.comment.toComment
        repo := p.repo.toRepository
        sender := p.sender.toUser } := by
    simp only [Gitea.IssueCommentPayload.toEvent, hn]
  rw [he]
  exact .comment

theorem Gitea.turned_by_mark {provider : Provider} {dialect : Dialect}
    (hd : provider.dialect? = some dialect)
    (hr : provider.reading? "issue_comment" = some (Gitea.reading .issueComment))
    {body other : List UInt8} {decoded : Decoded}
    (h : dialect.decode "issue_comment" body = .ok decoded)
    (hp : part = none ∨ part = some .null) (hm : Gitea.PullMark.shape.read node = .ok mark)
    (hx : Payload.Exchanges ⟨Gitea.IssueCommentPayload.shape⟩ ["issue", "pull_request"] part
      (some node) body other) :
    ∃ turned, dialect.decode "issue_comment" other = .ok turned ∧
      Turns none mark.merged decoded turned := by
  rw [decode_of_reading hd hr] at h
  obtain ⟨p, hparse, hc⟩ := Reading.run_eq_ok_iff.1 h
  cases hc
  obtain ⟨hn, hq⟩ := Gitea.IssueCommentPayload.parse_marked hx hp hm hparse
  exact ⟨_, decode_of_parse hd hr hq, Gitea.IssueCommentPayload.turns hn⟩

end Gitea

/-- A mark turns a comment on an issue into one on a pull request, and changes nothing else. -/
theorem comment_turned_by_mark {provider : Provider} {dialect : Dialect}
    (hd : provider.dialect? = some dialect) {site : Payload.Site}
    (hs : provider.site? "issue_comment" = some site) {body other : List UInt8} {decoded : Decoded}
    (h : dialect.decode "issue_comment" body = .ok decoded) {part : Option Payload.Node}
    (hp : part = none ∨ part = some .null) {node : Payload.Node} {link : Option String}
    {merged : Bool} (hm : MarkTells provider node link merged)
    (hx : Payload.Exchanges site ["issue", "pull_request"] part (some node) body other) :
    ∃ turned, dialect.decode "issue_comment" other = .ok turned ∧
      Turns link merged decoded turned := by
  cases hm with
  | gitHub hm =>
    obtain rfl : ⟨GitHub.IssueCommentPayload.shape⟩ = site := Option.some.inj hs
    have hr : Provider.github.reading? "issue_comment" =
        some (GitHub.reading .issueComment) := rfl
    rw [decode_of_reading hd hr] at h
    obtain ⟨p, hparse, hc⟩ := Reading.run_eq_ok_iff.1 h
    cases hc
    obtain ⟨hn, hq⟩ := GitHub.IssueCommentPayload.parse_marked hx hp hm hparse
    exact ⟨_, decode_of_parse hd hr hq, GitHub.IssueCommentPayload.turns hn⟩
  | gitea hv hm =>
    rcases hv with rfl | rfl
    · obtain rfl : ⟨Gitea.IssueCommentPayload.shape⟩ = site := Option.some.inj hs
      exact Gitea.turned_by_mark hd rfl h hp hm hx
    · obtain rfl : ⟨Gitea.IssueCommentPayload.shape⟩ = site := Option.some.inj hs
      exact Gitea.turned_by_mark hd rfl h hp hm hx

section Example

open Payload

/-- A comment on an issue that has this more to it. -/
def issueRemark (more : String) : List UInt8 :=
  ascii <|
    "\x7b\"action\":\"created\",\"issue\":\x7b\"number\":7,\"user\":\x7b\x7d,\"title\":\"t\"," ++
    "\"state\":\"open\"" ++ more ++ "\x7d,\"comment\":[1,\"\",\x7b\x7d,\"b\"]," ++
    "\"repository\":[1,\x7b\x7d,\"n\"],\"sender\":\x7b\x7d\x7d"

def issueMembers : List (Spelling × Node) :=
  [(ascii "number", .number (ascii "7")), (ascii "user", .object [] .closed),
    (ascii "title", .text (ascii "t")), (ascii "state", .text (ascii "open"))]

def remarkMembers : List (Spelling × Node) :=
  [(ascii "comment", .list [.number (ascii "1"), .text [], .object [] .closed,
      .text (ascii "b")] .closed),
    (ascii "repository", .list [.number (ascii "1"), .object [] .closed, .text (ascii "n")]
      .closed),
    (ascii "sender", .object [] .closed)]

def issueRemarkNode (more : List (Spelling × Node)) : Node :=
  .object ([(ascii "action", .text (ascii "created"))] ++
    (ascii "issue", .object (issueMembers ++ more) .closed) :: remarkMembers) .closed

def mergedMark : Node := .object [(ascii "merged", .flag true)] .closed

set_option maxRecDepth 4000 in
theorem issueRemark_scans : Says (issueRemark "") (issueRemarkNode []) :=
  Says.of_scan rfl

theorem issueRemark_decodes :
    ∃ decoded, Gitea.dialect.decode "issue_comment" (issueRemark "") = .ok decoded := by
  have hr : ((Gitea.IssueCommentPayload.shape.read (issueRemarkNode [])).toOption.map
      (·.issue.number)) = some 7 := by decide +kernel
  obtain ⟨p, hp, -⟩ := Option.map_eq_some_iff.1 hr
  have hparse := (issueRemark_scans.parse_eq _).trans (toOption_eq_some_iff.1 hp)
  have hd : Provider.gitea.dialect? = some Gitea.dialect := rfl
  have hr : Provider.gitea.reading? "issue_comment" = some (Gitea.reading .issueComment) := rfl
  exact ⟨_, decode_of_parse hd hr hparse⟩

set_option maxRecDepth 4000 in
theorem issueRemark_exchanges :
    Exchanges ⟨Gitea.IssueCommentPayload.shape⟩ ["issue", "pull_request"] none (some mergedMark)
      (issueRemark "") (issueRemark ",\"pull_request\":\x7b\"merged\":true\x7d") := by
  have ht : Says (issueRemark ",\"pull_request\":\x7b\"merged\":true\x7d")
      (issueRemarkNode [(ascii "pull_request", mergedMark)]) := Says.of_scan rfl
  have hmark : (ascii "pull_request").decode = .ok "pull_request" := by
    apply toOption_eq_some_iff.1
    decide +kernel
  have hissue : (ascii "issue").decode = .ok "issue" := by
    apply toOption_eq_some_iff.1
    decide +kernel
  have hm : ∀ member ∈ issueMembers ++ [], isUnder "pull_request" member = false := by
    decide +kernel
  have hi : ∀ member ∈ [(ascii "action", .text (ascii "created"))] ++ remarkMembers,
      isUnder "issue" member = false := by decide +kernel
  exact ⟨_, _, issueRemark_scans, ht,
    .within rfl (.here (exchanged_absent hmark hm)) (exchanged_member hissue hi)⟩

theorem issueRemark_turned :
    ∃ decoded turned,
      Gitea.dialect.decode "issue_comment" (issueRemark "") = .ok decoded ∧
      Gitea.dialect.decode "issue_comment"
        (issueRemark ",\"pull_request\":\x7b\"merged\":true\x7d") = .ok turned ∧
      Turns none true decoded turned := by
  obtain ⟨decoded, h⟩ := issueRemark_decodes
  have hr : (Gitea.PullMark.shape.read mergedMark).toOption.map (·.merged) = some true := by
    decide +kernel
  obtain ⟨mark, hmark, hmerged⟩ := Option.map_eq_some_iff.1 hr
  have htells : MarkTells .gitea mergedMark none mark.merged :=
    .gitea (.inl rfl) (toOption_eq_some_iff.1 hmark)
  rw [hmerged] at htells
  have hd : Provider.gitea.dialect? = some Gitea.dialect := rfl
  obtain ⟨turned, hother, hturns⟩ := comment_turned_by_mark hd rfl h (.inl rfl)
    htells issueRemark_exchanges
  exact ⟨decoded, turned, h, hother, hturns⟩

end Example

end WebhookRelay
