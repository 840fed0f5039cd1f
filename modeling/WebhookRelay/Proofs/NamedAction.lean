import WebhookRelay.Proofs.Admission
import WebhookRelay.Proofs.Noise
import WebhookRelay.Proofs.Presentation
import WebhookRelay.Proofs.UnknownEvent

/-!
Some events tell by their names what was done, and by nothing else. Under another name of the same
family a payload is told with the other action, and is otherwise the same, with the same verdict on
whether it is authentic.
-/

namespace WebhookRelay

/-- The subject with another action, if it has one at all. -/
def Subject.act (action : Action) : Subject → Subject
  | push p => push p
  | branch ref _ => branch ref action
  | tag ref _ => tag ref action
  | issue _ i => issue action i
  | issueComment _ i c => issueComment action i c
  | pullRequest _ p => pullRequest action p
  | pullRequestComment _ p c => pullRequestComment action p c
  | review _ p r => review action p r

/-- Whether two events have these actions, and are otherwise the same. -/
structure Event.Retold (a b : Action) (event other : Event) : Prop where
  action_eq : event.action? = some a
  other_eq : other = { event with subject := event.subject.act b }

structure Decoded.Retold (a b : Action) (decoded other : Decoded) : Prop where
  event : decoded.event.Retold a b other.event
  secret_eq : decoded.secret = other.secret

/-- Whether two results fail for the same cause, or succeed with values that are so related. -/
inductive FailAlike {ε α : Type} (related : α → α → Prop) : Except ε α → Except ε α → Prop
  | error (cause : ε) : FailAlike related (.error cause) (.error cause)
  | ok {first second : α} (h : related first second) : FailAlike related (.ok first) (.ok second)

/-- Whether two results are the same failure to decode, or the same verdict on two events that have
these actions and are otherwise the same. -/
inductive JudgedAlike (a b : Action) : Except ParseError Event → Except ParseError Event → Prop
  | undecoded (cause : DecodeError) :
      JudgedAlike a b (.error (.undecoded cause)) (.error (.undecoded cause))
  | accepted {event other : Event} (h : event.Retold a b other) :
      JudgedAlike a b (.ok event) (.ok other)
  | forged {event other : Event} (h : event.Retold a b other) :
      JudgedAlike a b (.error (.forged event)) (.error (.forged other))

/-- Whether two deliveries have the same body and bring the same proofs that they are authentic. -/
structure Dialect.ProvesAlike (dialect : Dialect) (delivery other : Delivery) : Prop where
  body_eq : delivery.body = other.body
  signature_eq : ∀ header ∈ dialect.signatures,
    delivery.header? header.name = other.header? header.name
  secret_eq : delivery.param? secretParam = other.param? secretParam

/-- The names that tell what was done to a reference. -/
def refFamily : List (String × Action) := [("create", .create), ("delete", .delete)]

/-- The families of names that tell what was done. -/
def Provider.families : Provider → List (List (String × Action))
  | github | gitea | gogs => [refFamily]
  | bitbucket => [
    [("pullrequest:created", .open), ("pullrequest:updated", .sync),
      ("pullrequest:fulfilled", .merge), ("pullrequest:rejected", .close)],
    [("pullrequest:comment_created", .create), ("pullrequest:comment_updated", .update),
      ("pullrequest:comment_deleted", .delete)]]
  | stash => [
    [("pr:opened", .open), ("pr:from_ref_updated", .sync), ("pr:modified", .update),
      ("pr:merged", .merge), ("pr:declined", .close), ("pr:deleted", .delete)],
    [("pr:comment:added", .create), ("pr:comment:edited", .update),
      ("pr:comment:deleted", .delete)]]
  | gitlab | fake => []

/-- The names of Gitea's events about a review, none of which tells what was done. -/
def Gitea.reviewNames : List String :=
  ["reviewed", "pull_request_approved", "pull_request_rejected", "pull_request_comment"]

namespace FailAlike

variable {ε α β : Type} {related : α → α → Prop} {relatedTo : β → β → Prop}

theorem same (x : Except ε α) : FailAlike Eq x x :=
  match x with
  | .error cause => .error cause
  | .ok _ => .ok rfl

theorem bind {x y : Except ε α} {f g : α → Except ε β} (h : FailAlike related x y)
    (hfg : ∀ first second, related first second → FailAlike relatedTo (f first) (g second)) :
    FailAlike relatedTo (x >>= f) (y >>= g) := by
  cases h with
  | error cause => exact .error cause
  | ok h => exact hfg _ _ h

end FailAlike

/-- Whether a reading for each action tells every payload alike. -/
def Retells (readingOf : Action → Reading) : Prop :=
  ∀ a b body, FailAlike (Decoded.Retold a b) ((readingOf a).run body) ((readingOf b).run body)

theorem retells_perhaps {α : Type} (shape : Payload.Shape α)
    {toEvent : Action → α → Except DecodeError Event}
    (h : ∀ a b payload, FailAlike (Event.Retold a b) (toEvent a payload) (toEvent b payload)) :
    Retells fun action => .perhaps shape (toEvent action) := by
  intro a b body
  refine (FailAlike.same _).bind ?_
  rintro payload _ rfl
  refine (h a b payload).bind fun event other he => ?_
  exact .ok ⟨he, rfl⟩

theorem retells_always {α : Type} (shape : Payload.Shape α) {toEvent : Action → α → Event}
    (h : ∀ a b payload, (toEvent a payload).Retold a b (toEvent b payload)) :
    Retells fun action => .always shape (toEvent action) :=
  retells_perhaps shape fun a b payload => .ok (h a b payload)

theorem GitHub.RefPayload.retold (a b : Action) (p : GitHub.RefPayload) :
    FailAlike (Event.Retold a b) (p.toEvent a) (p.toEvent b) := by
  unfold GitHub.RefPayload.toEvent
  split
  · exact .ok ⟨rfl, rfl⟩
  · exact .ok ⟨rfl, rfl⟩
  · exact .error _

theorem Gitea.RefPayload.retold (a b : Action) (p : Gitea.RefPayload) :
    FailAlike (Event.Retold a b) (p.toEvent a) (p.toEvent b) := by
  unfold Gitea.RefPayload.toEvent
  split
  · exact .ok ⟨rfl, rfl⟩
  · exact .ok ⟨rfl, rfl⟩
  · exact .error _

theorem Bitbucket.PullPayload.retold (a b : Action) (p : Bitbucket.PullPayload) :
    (p.toEvent a).Retold a b (p.toEvent b) := ⟨rfl, rfl⟩

theorem Bitbucket.PullCommentPayload.retold (a b : Action) (p : Bitbucket.PullCommentPayload) :
    (p.toEvent a).Retold a b (p.toEvent b) := ⟨rfl, rfl⟩

theorem Stash.PullPayload.retold (a b : Action) (p : Stash.PullPayload) :
    (p.toEvent a).Retold a b (p.toEvent b) := ⟨rfl, rfl⟩

theorem Stash.PullCommentPayload.retold (a b : Action) (p : Stash.PullCommentPayload) :
    (p.toEvent a).Retold a b (p.toEvent b) := ⟨rfl, rfl⟩

theorem exists_retells_of_lookup {Topic : Type} {topics : List (String × Topic)}
    (reading : Topic → Reading) (topicOf : Action → Topic) {family : List (String × Action)}
    (hr : Retells fun action => reading (topicOf action))
    (ht : ∀ named ∈ family, topics.lookup named.1 = some (topicOf named.2)) :
    ∃ readingOf, Retells readingOf ∧
      ∀ named ∈ family, (topics.lookup named.1).map reading = some (readingOf named.2) := by
  refine ⟨_, hr, fun named hn => ?_⟩
  rw [ht named hn, Option.map_some]

/-- The names of one family have one reading, which takes the action from outside. -/
theorem exists_retells_of_family {provider : Provider} {family : List (String × Action)}
    (hf : family ∈ provider.families) :
    ∃ readingOf, Retells readingOf ∧
      ∀ named ∈ family, provider.reading? named.1 = some (readingOf named.2) := by
  cases provider with
  | github =>
    obtain rfl := List.mem_singleton.1 hf
    refine ⟨_, retells_perhaps GitHub.RefPayload.shape GitHub.RefPayload.retold, ?_⟩
    exact List.forall_mem_cons.2 ⟨rfl, List.forall_mem_singleton.2 rfl⟩
  | gitea | gogs =>
    obtain rfl := List.mem_singleton.1 hf
    refine ⟨_, retells_perhaps Gitea.RefPayload.shape Gitea.RefPayload.retold, ?_⟩
    exact List.forall_mem_cons.2 ⟨rfl, List.forall_mem_singleton.2 rfl⟩
  | bitbucket =>
    -- The names of either list have one constructor of topics, which holds the action.
    rcases hf with _ | ⟨_, _ | ⟨_, ⟨⟩⟩⟩
    · have hr := retells_always Bitbucket.PullPayload.shape Bitbucket.PullPayload.retold
      exact exists_retells_of_lookup Bitbucket.reading .pullRequest hr (by decide)
    · have hr := retells_always Bitbucket.PullCommentPayload.shape
        Bitbucket.PullCommentPayload.retold
      exact exists_retells_of_lookup Bitbucket.reading .pullRequestComment hr (by decide)
  | stash =>
    rcases hf with _ | ⟨_, _ | ⟨_, ⟨⟩⟩⟩
    · have hr := retells_always Stash.PullPayload.shape Stash.PullPayload.retold
      exact exists_retells_of_lookup Stash.reading .pullRequest hr (by decide)
    · have hr := retells_always Stash.PullCommentPayload.shape Stash.PullCommentPayload.retold
      exact exists_retells_of_lookup Stash.reading .pullRequestComment hr (by decide)
  | gitlab | fake => cases hf

section Families

variable {provider : Provider} {dialect : Dialect} {family : List (String × Action)}
  {event other : String} {a b : Action}

theorem decode_failAlike (hd : provider.dialect? = some dialect) (hf : family ∈ provider.families)
    (he : (event, a) ∈ family) (ho : (other, b) ∈ family) (body : List UInt8) :
    FailAlike (Decoded.Retold a b) (dialect.decode event body) (dialect.decode other body) := by
  obtain ⟨readingOf, hr, hn⟩ := exists_retells_of_family hf
  rw [decode_of_reading hd (hn _ he), decode_of_reading hd (hn _ ho)]
  exact hr a b body

theorem judge_retold {delivery resent : Delivery} (hp : dialect.ProvesAlike delivery resent)
    {decoded retold : Decoded} (h : decoded.Retold a b retold) (key : String) :
    JudgedAlike a b (dialect.judge delivery decoded (.ok key))
      (dialect.judge resent retold (.ok key)) := by
  have ha : dialect.authentic delivery decoded.secret key =
      dialect.authentic resent retold.secret key := by
    rw [authentic_congr hp.body_eq hp.signature_eq hp.secret_eq, h.secret_eq]
  simp only [Dialect.judge, ha]
  split
  · exact .accepted h.event
  · exact .forged h.event

/-- The key depends on the repository only, which is the same. -/
theorem parse_judgedAlike (hd : provider.dialect? = some dialect) {delivery resent : Delivery}
    (hp : dialect.ProvesAlike delivery resent)
    (h : FailAlike (Decoded.Retold a b) (dialect.decodeDelivery delivery)
      (dialect.decodeDelivery resent)) (rules : List Rule) :
    JudgedAlike a b (parse provider delivery (Receiver.resolver rules provider))
      (parse provider resent (Receiver.resolver rules provider)) := by
  generalize hx : dialect.decodeDelivery delivery = x at h
  generalize hy : dialect.decodeDelivery resent = y at h
  cases h with
  | error cause =>
    rw [parse_of_undecoded _ hd hx, parse_of_undecoded _ hd hy]
    exact .undecoded cause
  | @ok decoded retold h =>
    have hk : Receiver.resolver rules provider retold.event =
        Receiver.resolver rules provider decoded.event := by
      rw [h.event.other_eq]
      rfl
    rw [parse_of_decoded _ hd hx, parse_of_decoded _ hd hy, hk]
    exact judge_retold hp h _

end Families

section Reviews

variable {event other : String}

theorem Gitea.decode_review (he : event ∈ Gitea.reviewNames) (body : List UInt8) :
    Gitea.dialect.decode event body = (Gitea.reading .review).run body := by
  have ht : Gitea.topics.lookup event = some .review := by
    revert event
    decide
  have hd : Provider.gitea.dialect? = some Gitea.dialect := rfl
  exact decode_of_reading hd (Option.map_eq_some_iff.2 ⟨_, ht, rfl⟩) body

/-- The type of the review tells what was done. -/
theorem Gitea.exists_type_of_review {body : List UInt8} {decoded : Decoded}
    (h : (Gitea.reading .review).run body = .ok decoded) :
    ∃ p, Gitea.ReviewPayload.shape.parse body = .ok p ∧
      decoded.event.action? = some (.ofReviewVerb p.review.type) := by
  obtain ⟨p, hp, hc⟩ := Reading.run_eq_ok_iff.1 h
  obtain ⟨event, he, rfl⟩ := Reading.convert_perhaps_eq_ok_iff.1 hc
  cases he
  exact ⟨p, hp, rfl⟩

theorem Gitea.parse_review {m : Type → Type} [Monad m] {delivery resent : Delivery}
    (hp : Gitea.dialect.ProvesAlike delivery resent) (he : event ∈ Gitea.reviewNames)
    (ho : other ∈ Gitea.reviewNames) (hn : Gitea.dialect.EventIs delivery event)
    (hr : Gitea.dialect.EventIs resent other) (resolve : Event → m (Except String String)) :
    parse .gitea delivery resolve = parse .gitea resent resolve := by
  have hd : Provider.gitea.dialect? = some Gitea.dialect := rfl
  refine parse_congr hd ?_ hp.body_eq hp.signature_eq hp.secret_eq resolve
  rw [decodeDelivery_of_eventIs hn, decodeDelivery_of_eventIs hr, hp.body_eq,
    Gitea.decode_review he, Gitea.decode_review ho]

end Reviews

/-- The names of a family tell a payload with their own actions. Whatever the payload is, they fail
for the same cause, or tell it alike but for the action, and with the keys of any rules they get the
same verdict. The names of a review tell nothing: what was done is in the payload only. -/
theorem names_tell_actions_only {provider : Provider} {dialect : Dialect}
    (hd : provider.dialect? = some dialect) :
    (∀ family ∈ provider.families, ∀ event a, (event, a) ∈ family → ∀ other b,
      (other, b) ∈ family →
      (∀ body, FailAlike (Decoded.Retold a b) (dialect.decode event body)
        (dialect.decode other body)) ∧
      ∀ rules delivery resent, dialect.ProvesAlike delivery resent →
        dialect.EventIs delivery event → dialect.EventIs resent other →
        JudgedAlike a b (parse provider delivery (Receiver.resolver rules provider))
          (parse provider resent (Receiver.resolver rules provider))) ∧
    ∀ event ∈ Gitea.reviewNames, ∀ other ∈ Gitea.reviewNames,
      (∀ body, Gitea.dialect.decode event body = Gitea.dialect.decode other body ∧
        ∀ decoded, Gitea.dialect.decode event body = .ok decoded →
          ∃ p, Gitea.ReviewPayload.shape.parse body = .ok p ∧
            decoded.event.action? = some (.ofReviewVerb p.review.type)) ∧
      ∀ (m : Type → Type) [Monad m] (resolve : Event → m (Except String String)) delivery resent,
        Gitea.dialect.ProvesAlike delivery resent →
        Gitea.dialect.EventIs delivery event → Gitea.dialect.EventIs resent other →
        parse .gitea delivery resolve = parse .gitea resent resolve := by
  refine ⟨fun family hf event a he other b ho => ⟨decode_failAlike hd hf he ho, ?_⟩,
    fun event he other ho => ⟨fun body => ⟨?_, ?_⟩, ?_⟩⟩
  · intro rules delivery resent hp hn hr
    refine parse_judgedAlike hd hp ?_ rules
    rw [decodeDelivery_of_eventIs hn, decodeDelivery_of_eventIs hr, hp.body_eq]
    exact decode_failAlike hd hf he ho resent.body
  · rw [Gitea.decode_review he, Gitea.decode_review ho]
  · intro decoded h
    rw [Gitea.decode_review he] at h
    exact Gitea.exists_type_of_review h
  · intro m _ resolve delivery resent hp hn hr
    exact Gitea.parse_review hp he ho hn hr resolve

/-- The payload of a tag under the name of an event, with the secret `k`. -/
def tagDelivery (event : String) : Delivery where
  headers := [("X-Gitea-Event", event)]
  query := some "secret=k"
  body := plainTag
  body_le := by decide +kernel

theorem tagDelivery_eventIs {event : String} (he : event ≠ "") :
    Gitea.dialect.EventIs (tagDelivery event) event := by
  have hn : Delivery.sameName "X-Gitea-Event" Gitea.dialect.eventHeader = true := by
    rw [Delivery.sameName_eq]
    decide +kernel
  exact .inl ⟨[], "X-Gitea-Event", [], rfl, hn, he, by simp [NoneGiven]⟩

theorem tagDelivery_unsigned (event : String) : Gitea.dialect.Unsigned (tagDelivery event) := by
  have hn : ∀ header ∈ Gitea.dialect.signatures,
      Delivery.sameName "X-Gitea-Event" header.name = false := by
    simp only [Delivery.sameName_eq]
    decide +kernel
  intro header hm pair hp hs
  obtain rfl := List.mem_singleton.1 hp
  cases (hn header hm).symm.trans hs

theorem tagDelivery_provesAlike (event other : String) :
    Gitea.dialect.ProvesAlike (tagDelivery event) (tagDelivery other) := by
  refine ⟨rfl, fun header hm => ?_, rfl⟩
  rw [Delivery.header?_eq_none_iff.2 (tagDelivery_unsigned event header hm),
    Delivery.header?_eq_none_iff.2 (tagDelivery_unsigned other header hm)]

/-- A review that its type rejects. -/
def rejectedReview : List UInt8 :=
  ["\x7b\"pull_request\":\x7b\"number\":1,", "\"user\":\x7b\x7d,\"title\":\"t\",",
    "\"state\":\"open\",\"head\":", "\x7b\"ref\":\"a\",\"sha\":\"b\"\x7d,\"base\":",
    "\x7b\"ref\":\"c\",\"sha\":\"d\"\x7d\x7d,", "\"repository\":\x7b\"id\":1,\"owner\":\x7b\x7d,",
    "\"name\":\"n\"\x7d,\"sender\":\x7b\x7d,", "\"review\":\x7b\"type\":",
    "\"pull_request_review_rejected\"\x7d\x7d"].flatMap Payload.ascii

theorem tag_told_by_name :
    (Gitea.dialect.decode "create" plainTag).toOption.isSome = true ∧
    FailAlike (Decoded.Retold .create .delete) (Gitea.dialect.decode "create" plainTag)
      (Gitea.dialect.decode "delete" plainTag) ∧
    JudgedAlike .create .delete
      (parse .gitea (tagDelivery "create") (Receiver.resolver [Receiver.giteaGuarded] .gitea))
      (parse .gitea (tagDelivery "delete") (Receiver.resolver [Receiver.giteaGuarded] .gitea)) ∧
    (Gitea.dialect.decode "reviewed" rejectedReview).toOption.map (·.event.action?) =
      some (some .dismissed) ∧
    Gitea.dialect.decode "reviewed" rejectedReview =
      Gitea.dialect.decode "pull_request_approved" rejectedReview := by
  have hd : Provider.gitea.dialect? = some Gitea.dialect := rfl
  have h := names_tell_actions_only hd
  have hf : refFamily ∈ Provider.gitea.families := .head _
  have hc : ("create", Action.create) ∈ refFamily := .head _
  have hx : ("delete", Action.delete) ∈ refFamily := .tail _ (.head _)
  have hs := h.1 refFamily hf "create" .create hc "delete" .delete hx
  have hv := h.2 "reviewed" (by decide) "pull_request_approved" (by decide)
  refine ⟨by decide +kernel, hs.1 plainTag, ?_, by decide +kernel, (hv.1 rejectedReview).1⟩
  exact hs.2 [Receiver.giteaGuarded] _ _ (tagDelivery_provesAlike "create" "delete")
    (tagDelivery_eventIs (by decide)) (tagDelivery_eventIs (by decide))

end WebhookRelay
