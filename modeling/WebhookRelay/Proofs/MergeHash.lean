import WebhookRelay.Proofs.Decoding
import WebhookRelay.Proofs.Payload.Exchange

/-!
The pull requests of Gogs come without the hash of their head. What is told as the hash is that of
the merge commit, and whether the payload says that it was merged has no say in it.
-/

namespace WebhookRelay

/-- The text that a part says, which is empty if there is none. -/
inductive Payload.SaysText : Option Node → String → Prop
  | missing {part : Option Node} (hp : part = none ∨ part = some .null) : SaysText part ""
  | text {node : Node} {text : String} (h : Shape.text.read node = .ok text) :
      SaysText (some node) text

theorem Payload.saysText_of_optional? {part : Option Node} {text : Option String}
    (h : Shape.text.optional? part = some text) : SaysText part (text.getD "") := by
  obtain ⟨rfl, hp⟩ | ⟨node, text, rfl, rfl, hr⟩ := cases_of_optional? h
  · exact .missing hp
  · exact .text hr

namespace Gogs

open Payload

section Parse

variable {body other : List UInt8} {p : PullPayload} {part new : Option Node}

theorem PullPayload.exists_parse_merged (hp : PullPayload.shape.parse body = .ok p)
    (h : Exchanges ⟨PullPayload.shape⟩ ["pull_request", "merged"] part new body other)
    (ht : (∃ x, Shape.flag.defaulted? false part = some x) →
      ∃ y, Shape.flag.defaulted? false new = some y) :
    ∃ merged, Shape.flag.defaulted? false part = some p.pull.merged ∧
      Shape.flag.defaulted? false new = some merged ∧
      PullPayload.shape.parse other = .ok { p with pull := { p.pull with merged } } := by
  obtain ⟨q, a, b, hq, hout, hin⟩ := exists_parse_inner h rfl (fun _ => Iff.rfl) ht hp
  simp only [Fields.Differ, Fields.Same, String.reduceEq, if_false, if_true] at hout hin
  obtain ⟨action, pull, changed, ha, hb, repo, sender, rfl, rfl⟩ := hout
  obtain ⟨_, _, _, _, _, _, _, _, merged, hx, hy, _, _, _, _, rfl, rfl⟩ := hin pull changed ha hb
  exact ⟨merged, hx, hy, hq⟩

theorem PullPayload.optional?_mergedSha (hp : PullPayload.shape.parse body = .ok p)
    (h : Has ⟨PullPayload.shape⟩ ["pull_request", "merged_commit_id"] part body) :
    Shape.text.optional? part = some p.pull.mergedSha := by
  obtain ⟨q, a, b, -, hout, hin⟩ := exists_parse_inner h rfl (fun _ => Iff.rfl) (fun ht => ht) hp
  simp only [Fields.Differ, Fields.Same, String.reduceEq, if_false, if_true] at hout hin
  obtain ⟨action, pull, changed, ha, hb, repo, sender, rfl, rfl⟩ := hout
  obtain ⟨_, _, _, _, _, _, _, _, sha, _, hx, _, _, _, _, rfl, rfl⟩ := hin pull changed ha hb
  exact hx

end Parse

theorem decode_pull {body : List UInt8} {p : PullPayload}
    (hp : PullPayload.shape.parse body = .ok p) :
    Gogs.dialect.decode "pull_request" body = .ok (Subject.told p.repo.toRepository p.sender.toUser
      (.pullRequest (.ofVerb p.action) p.pull.toPullRequest)) := by
  have hd : Provider.gogs.dialect? = some Gogs.dialect := rfl
  have hr : Provider.gogs.reading? "pull_request" = some Gogs.pullReading := rfl
  exact decode_of_parse hd hr hp

/-- A pull request is told with the hash of its merge commit, and with no hash if the payload names
no such commit. Whether it was merged is told beside that, and can be exchanged alone. -/
theorem pull_told_with_merge_hash {body : List UInt8} {decoded : Decoded}
    (h : Gogs.dialect.decode "pull_request" body = .ok decoded) :
    ∃ p repo sender action pull, PullPayload.shape.parse body = .ok p ∧
      decoded = Subject.told repo sender (.pullRequest action pull) ∧
      pull.sha = p.pull.mergedSha.getD "" ∧ pull.merged = p.pull.merged ∧
      (∀ part, Has ⟨PullPayload.shape⟩ ["pull_request", "merged_commit_id"] part body →
        SaysText part pull.sha) ∧
      (∀ part, Has ⟨PullPayload.shape⟩ ["pull_request", "merged"] part body →
        Shape.flag.defaulted? false part = some pull.merged) ∧
      ∀ part new other flag,
        Exchanges ⟨PullPayload.shape⟩ ["pull_request", "merged"] part new body other →
        Shape.flag.defaulted? false new = some flag →
        Gogs.dialect.decode "pull_request" other =
          .ok (Subject.told repo sender (.pullRequest action { pull with merged := flag })) := by
  have hd : Provider.gogs.dialect? = some Gogs.dialect := rfl
  have hr : Provider.gogs.reading? "pull_request" = some Gogs.pullReading := rfl
  rw [decode_of_reading hd hr] at h
  obtain ⟨p, hp, hc⟩ := Reading.run_eq_ok_iff.1 h
  obtain ⟨event, he, rfl⟩ := Reading.convert_perhaps_eq_ok_iff.1 hc
  cases he
  refine ⟨p, _, _, _, p.pull.toPullRequest, hp, rfl, rfl, rfl, fun part h => ?_,
    fun part h => ?_, ?_⟩
  · exact saysText_of_optional? (PullPayload.optional?_mergedSha hp h)
  · obtain ⟨merged, hx, -, -⟩ := PullPayload.exists_parse_merged hp h fun ht => ht
    exact hx
  · intro part new other flag h hn
    obtain ⟨merged, -, hy, hq⟩ := PullPayload.exists_parse_merged hp h fun _ => ⟨flag, hn⟩
    obtain rfl : flag = merged := Option.some.inj (hn.symm.trans hy)
    exact decode_pull hq

section Example

/-- A pull request that names a merge commit, whether it was merged or not. -/
def namedMerge (merged : String) : List UInt8 :=
  ["\x7b\"action\":\"opened\",\"pull_request\":", "\x7b\"number\":1,\"user\":",
    "\x7b\"login\":\"u\"\x7d,\"title\":\"t\",", "\"state\":\"open\",\"merged\":", merged,
    ",\"merged_commit_id\":\"c0ffee\",", "\"head_branch\":\"a\",", "\"base_branch\":\"b\"\x7d,",
    "\"repository\":\x7b\"id\":1,", "\"owner\":\x7b\"login\":\"o\"\x7d,\"name\":\"n\"\x7d,",
    "\"sender\":\x7b\"login\":\"u\"\x7d\x7d"].flatMap ascii

def namedPull : PullRequest where
  number := 1
  title := "t"
  sha := "c0ffee"
  ref := "refs/pull/1/head"
  source := "a"
  target := "b"
  author := { login := "u" }

def namedEvent (pull : PullRequest) : Decoded :=
  Subject.told { id := "1", owner := "o", name := "n" } { login := "u" } (.pullRequest .open pull)

theorem namedMerge_decodes :
    Gogs.dialect.decode "pull_request" (namedMerge "false") = .ok (namedEvent namedPull) := by
  apply toOption_eq_some_iff.1
  decide +kernel

def accountNode (login : String) : Node := .object [(ascii "login", .text (ascii login))] .closed

def pullBefore : List (Spelling × Node) :=
  [(ascii "number", .number (ascii "1")), (ascii "user", accountNode "u"),
    (ascii "title", .text (ascii "t")), (ascii "state", .text (ascii "open"))]

def pullAfter : List (Spelling × Node) :=
  [(ascii "merged_commit_id", .text (ascii "c0ffee")), (ascii "head_branch", .text (ascii "a")),
    (ascii "base_branch", .text (ascii "b"))]

def hookAfter : List (Spelling × Node) :=
  [(ascii "repository", .object [(ascii "id", .number (ascii "1")),
      (ascii "owner", accountNode "o"), (ascii "name", .text (ascii "n"))] .closed),
    (ascii "sender", accountNode "u")]

def pullNode (merged : Bool) : Node :=
  .object (pullBefore ++ (ascii "merged", .flag merged) :: pullAfter) .closed

def hookNode (merged : Bool) : Node :=
  .object ([(ascii "action", .text (ascii "opened"))] ++
    (ascii "pull_request", pullNode merged) :: hookAfter) .closed

set_option maxRecDepth 4000 in
theorem namedMerge_exchanges :
    Exchanges ⟨PullPayload.shape⟩ ["pull_request", "merged"] (some (.flag false))
      (some (.flag true)) (namedMerge "false") (namedMerge "true") := by
  have hs : Says (namedMerge "false") (hookNode false) := Says.of_scan rfl
  have ht : Says (namedMerge "true") (hookNode true) := Says.of_scan rfl
  have hmerged : (ascii "merged").decode = .ok "merged" := by
    apply toOption_eq_some_iff.1
    decide +kernel
  have hpull : (ascii "pull_request").decode = .ok "pull_request" := by
    apply toOption_eq_some_iff.1
    decide +kernel
  have hm : ∀ member ∈ pullBefore ++ pullAfter, isUnder "merged" member = false := by
    decide +kernel
  have hp : ∀ member ∈ [(ascii "action", .text (ascii "opened"))] ++ hookAfter,
      isUnder "pull_request" member = false := by decide +kernel
  exact ⟨_, _, hs, ht,
    .within rfl (.here (exchanged_member hmerged hm)) (exchanged_member hpull hp)⟩

/-- Once it is merged, the same commit is told. -/
theorem namedMerge_told_alike :
    Gogs.dialect.decode "pull_request" (namedMerge "false") = .ok (namedEvent namedPull) ∧
    Gogs.dialect.decode "pull_request" (namedMerge "true") =
      .ok (namedEvent { namedPull with merged := true }) := by
  obtain ⟨p, repo, sender, action, pull, -, he, -, -, -, -, hx⟩ :=
    pull_told_with_merge_hash namedMerge_decodes
  have ht := hx _ _ _ true namedMerge_exchanges rfl
  cases he
  exact ⟨namedMerge_decodes, ht⟩

/-- The commit is told as the hash before it is there. -/
theorem not_forall_sha_of_unmerged :
    ¬ ∀ (body : List UInt8) (decoded : Decoded) (action : Action) (pull : PullRequest),
      Gogs.dialect.decode "pull_request" body = .ok decoded →
      decoded.event.subject = .pullRequest action pull → pull.merged = false → pull.sha = "" := by
  intro h
  have hs : "c0ffee" = "" := h _ _ _ _ namedMerge_decodes rfl rfl
  exact absurd hs (by decide)

end Example

end Gogs

end WebhookRelay
