import WebhookRelay.Proofs.Dispatch
import WebhookRelay.Proofs.Decoding

/-!
Gogs and Gitea send some events with the same payloads. A delivery of such an event means the same
to both, once its headers bear the other's names.
-/

namespace WebhookRelay

/-- The events that both send alike. -/
def sharedEvents : List String := ["push", "create", "delete", "issues", "issue_comment"]

/-- What Gogs calls a header of Gitea. -/
def gogsName (name : String) : String :=
  if Delivery.sameName name "X-Gitea-Event" then "X-Gogs-Event"
  else if Delivery.sameName name "X-Gitea-Signature" then "X-Gogs-Signature"
  else name

/-- A delivery of Gitea under the names that Gogs has for its headers. -/
def Delivery.asGogs (delivery : Delivery) : Delivery :=
  { delivery with headers := delivery.headers.map fun pair => (gogsName pair.1, pair.2) }

/-- Whether a delivery has none of the headers that Gogs reads. -/
def Delivery.LacksGogs (delivery : Delivery) : Prop :=
  ∀ pair ∈ delivery.headers,
    sameName pair.1 "X-Gogs-Event" = false ∧ sameName pair.1 "X-Gogs-Signature" = false

section Headers

variable {delivery : Delivery}

theorem header?_asGogs (h : delivery.LacksGogs) :
    delivery.asGogs.header? "X-Gogs-Event" = delivery.header? "X-Gitea-Event" ∧
    delivery.asGogs.header? "X-Gogs-Signature" = delivery.header? "X-Gitea-Signature" := by
  have apart : Delivery.sameName "X-Gogs-Signature" "X-Gogs-Event" = false ∧
      Delivery.sameName "X-Gogs-Event" "X-Gogs-Signature" = false ∧
      Delivery.sameName "X-Gitea-Event" "X-Gitea-Signature" = false := by
    simp only [Delivery.sameName_eq]
    decide +kernel
  constructor
  · refine @valueUnder?_map (Delivery.sameName · "X-Gogs-Event")
      (Delivery.sameName · "X-Gitea-Event") gogsName delivery.headers fun pair hm => ?_
    obtain ⟨hn, -⟩ := h pair hm
    unfold gogsName
    split
    · next he => rw [he, Delivery.sameName_iff.2 rfl]
    · next he =>
      split
      · rw [apart.1, Bool.eq_false_iff.2 he]
      · rw [hn, Bool.eq_false_iff.2 he]
  · refine @valueUnder?_map (Delivery.sameName · "X-Gogs-Signature")
      (Delivery.sameName · "X-Gitea-Signature") gogsName delivery.headers fun pair hm => ?_
    obtain ⟨-, hn⟩ := h pair hm
    unfold gogsName
    split
    · next he => rw [apart.2.1, Delivery.sameName_congr he, apart.2.2]
    · split
      · next hs => rw [hs, Delivery.sameName_iff.2 rfl]
      · next hs => rw [hn, Bool.eq_false_iff.2 hs]

theorem decodeDelivery_asGogs (h : delivery.LacksGogs) {event : String}
    (he : delivery.header? "X-Gitea-Event" = some event) (hs : event ∈ sharedEvents) :
    Gogs.dialect.decodeDelivery delivery.asGogs = Gitea.dialect.decodeDelivery delivery := by
  have hg : delivery.asGogs.header? Gogs.dialect.eventHeader = some event :=
    (header?_asGogs h).1.trans he
  rw [decodeDelivery_of_header hg, decodeDelivery_of_header he]
  simp only [sharedEvents, List.mem_cons, List.not_mem_nil, or_false] at hs
  rcases hs with rfl | rfl | rfl | rfl | rfl <;> rfl

theorem authentic_asGogs (h : delivery.LacksGogs) (secret : Option String) (key : String) :
    Gogs.dialect.authentic delivery.asGogs secret key =
      Gitea.dialect.authentic delivery secret key := by
  have hs (dialect : Dialect) (header : SignatureHeader) (delivery : Delivery)
      (hd : dialect.signatures = [header]) :
      dialect.signature? delivery = (delivery.header? header.name).map (Prod.mk header) := by
    rw [Dialect.signature?, hd, List.findSome?_cons]
    cases delivery.header? header.name <;> rfl
  unfold Dialect.authentic
  rw [hs Gogs.dialect _ _ rfl, hs Gitea.dialect _ _ rfl, (header?_asGogs h).2]
  cases delivery.header? "X-Gitea-Signature" <;> rfl

theorem judge_asGogs (h : delivery.LacksGogs) (decoded : Decoded) :
    Gogs.dialect.judge delivery.asGogs decoded = Gitea.dialect.judge delivery decoded := by
  funext answer
  cases answer with
  | error cause => rfl
  | ok key => simp only [Dialect.judge, authentic_asGogs h]

end Headers

section Agreement

variable {m : Type → Type} [Monad m] [LawfulMonad m]

theorem parse_asGogs {delivery : Delivery} (h : delivery.LacksGogs) {event : String}
    (he : delivery.header? "X-Gitea-Event" = some event) (hs : event ∈ sharedEvents)
    (resolve : Event → m (Except String String)) :
    parse .gogs delivery.asGogs resolve = parse .gitea delivery resolve := by
  have hd := decodeDelivery_asGogs h he hs
  have hgogs : Provider.gogs.dialect? = some Gogs.dialect := rfl
  have hgitea : Provider.gitea.dialect? = some Gitea.dialect := rfl
  cases hc : Gitea.dialect.decodeDelivery delivery with
  | error cause =>
    rw [parse_of_undecoded resolve hgitea hc, parse_of_undecoded resolve hgogs (hd.trans hc)]
  | ok decoded =>
    rw [parse_of_decoded resolve hgitea hc, parse_of_decoded resolve hgogs (hd.trans hc),
      judge_asGogs h]

/-- Of the events that Gitea sends, Gogs handles the shared ones and pull requests. -/
theorem not_mem_gogs_of_not_shared {event : String} (hs : event ∉ sharedEvents)
    (hp : event ≠ "pull_request") : event ∉ Provider.gogs.eventNames := by
  have hn : Provider.gogs.eventNames = sharedEvents ++ ["pull_request"] := rfl
  rw [hn, List.mem_append, List.mem_singleton]
  exact not_or.2 ⟨hs, hp⟩

/-- Every delivery of a shared event, whatever its body and however it is signed, is answered alike
as one of Gitea and, under other names, as one of Gogs, with the same calls of the resolver. Any
other event is unknown to Gogs, but for pull requests, whatever Gitea knows of it. -/
theorem gogs_agrees_with_gitea (delivery : Delivery) (event : String)
    (resolve : Event → m (Except String String)) :
    (delivery.LacksGogs → event ∈ sharedEvents →
      FirstGiven delivery.headers (Delivery.sameName · "X-Gitea-Event" = true) event →
      parse .gogs delivery.asGogs resolve = parse .gitea delivery resolve ∧
      ∀ calls, (parse .gogs delivery.asGogs (noting resolve)).run calls =
        (parse .gitea delivery (noting resolve)).run calls) ∧
    (event ∉ sharedEvents → event ≠ "pull_request" →
      FirstGiven delivery.headers (Delivery.sameName · "X-Gogs-Event" = true) event →
      parse .gogs delivery resolve = pure (.error (.undecoded (.unknownEvent event)))) := by
  constructor
  · intro h hs hf
    have he := Delivery.header?_eq_some_iff.2 hf
    refine ⟨parse_asGogs h he hs resolve, fun calls => ?_⟩
    rw [parse_asGogs h he hs (noting resolve)]
  · intro hs hp hf
    have he : delivery.header? Gogs.dialect.eventHeader = some event :=
      Delivery.header?_eq_some_iff.2 hf
    have hd : Provider.gogs.dialect? = some Gogs.dialect := rfl
    refine parse_of_undecoded resolve hd ?_
    rw [decodeDelivery_of_header he]
    exact decode_of_unknown hd (not_mem_gogs_of_not_shared hs hp) delivery.body

end Agreement

theorem signedPush_lacksGogs : signedPush.LacksGogs := by
  unfold Delivery.LacksGogs
  simp only [Delivery.sameName_eq]
  decide +kernel

theorem signedPush_event :
    FirstGiven signedPush.headers (Delivery.sameName · "X-Gitea-Event" = true) "push" := by
  refine Delivery.header?_eq_some_iff.1 ?_
  simp only [Delivery.header?, Delivery.sameName_eq]
  decide +kernel

/-- An approval of a pull request, as Gogs never sends one. -/
def strayApproval : Delivery where
  headers := [("x-gogs-event", "pull_request_approved")]
  body := Text.Utf8.encode "\x7b\x7d"
  body_le := by decide +kernel

theorem strayApproval_event : FirstGiven strayApproval.headers
    (Delivery.sameName · "X-Gogs-Event" = true) "pull_request_approved" := by
  refine Delivery.header?_eq_some_iff.1 ?_
  simp only [Delivery.header?, Delivery.sameName_eq]
  decide +kernel

theorem signedPush_agrees :
    signedPush.LacksGogs ∧ "push" ∈ sharedEvents ∧
    parse .gogs signedPush.asGogs silent = parse .gitea signedPush silent ∧
    (parse .gogs signedPush.asGogs (noting silent)).run [] =
      (.error (.noKey pushedEvent "down"), [pushedEvent]) ∧
    "pull_request_approved" ∈ Provider.gitea.eventNames ∧
    parse .gogs strayApproval silent =
      pure (.error (.undecoded (.unknownEvent "pull_request_approved"))) := by
  have hs : "push" ∈ sharedEvents := by decide
  have h := (gogs_agrees_with_gitea signedPush "push" silent).1 signedPush_lacksGogs hs
    signedPush_event
  obtain ⟨verdict, -, hr⟩ := exists_verdict (unkeyed_eq_ok_iff.2 signedPush_decodes)
  have hc := hr Id silent []
  rw [← h.2 []] at hc
  have ha := (gogs_agrees_with_gitea strayApproval "pull_request_approved" silent).2 (by decide)
    (by decide) strayApproval_event
  exact ⟨signedPush_lacksGogs, hs, h.1, hc, by decide, ha⟩

end WebhookRelay
