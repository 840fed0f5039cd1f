import WebhookRelay.Proofs.Dispatch
import WebhookRelay.Proofs.Payload.Record
import WebhookRelay.Proofs.Signature

/-!
Which deliveries count as authentic: the first signature header that is present decides, and only
where none is does a secret in the payload or else in the query.
-/

namespace WebhookRelay

/-- Whether a delivery is signed by this header with this value: it is the first header of the
dialect with a value, and that is its first. -/
def Dialect.SignedBy (dialect : Dialect) (delivery : Delivery) (header : SignatureHeader)
    (value : String) : Prop :=
  ∃ before after, dialect.signatures = before ++ header :: after ∧
    (∀ other ∈ before, NoneGiven delivery.headers (Delivery.sameName · other.name = true)) ∧
    FirstGiven delivery.headers (Delivery.sameName · header.name = true) value

def Dialect.Unsigned (dialect : Dialect) (delivery : Delivery) : Prop :=
  ∀ header ∈ dialect.signatures,
    NoneGiven delivery.headers (Delivery.sameName · header.name = true)

/-- The secret at the top of a payload. -/
def topSecret? (body : List UInt8) : Option String :=
  ((Payload.scan body).1.leading? "secret").bind Payload.Node.text?

/-- The secret that the payload of an event carries. Only pushes of two providers have one. -/
def embedded? (provider : Provider) (event : Event) (body : List UInt8) : Option String :=
  if (provider = .gitea ∨ provider = .gogs) ∧ event.kind = "push" then topSecret? body else none

/-- The secret of a delivery, in its payload or else in its query. -/
inductive HasSecret (provider : Provider) (delivery : Delivery) (event : Event)
    (secret : String) : Prop
  | embedded (h : embedded? provider event delivery.body = some secret) (hs : secret ≠ "")
  | query {query : String} (h : ∀ other, embedded? provider event delivery.body = some other →
      other = "") (hq : delivery.query = some query)
      (hs : FirstGiven (Query.params query) (· = "secret") secret)

/-- How a delivery can prove that its sender knows a key. -/
inductive Proves (provider : Provider) (delivery : Delivery) (event : Event) (key : String) : Prop
  | signature {dialect : Dialect} {header : SignatureHeader} {value : String}
      (hd : provider.dialect? = some dialect) (hs : dialect.SignedBy delivery header value)
      (ha : header.scheme.Accepts key delivery.body value)
  | secret {dialect : Dialect} (hd : provider.dialect? = some dialect)
      (hu : dialect.Unsigned delivery) (hs : HasSecret provider delivery event key)

section Signature

variable {dialect : Dialect} {delivery : Delivery} {header : SignatureHeader} {value : String}

theorem signature?_eq_some_iff :
    dialect.signature? delivery = some (header, value) ↔ dialect.SignedBy delivery header value := by
  simp only [Dialect.signature?, List.findSome?_eq_some_iff, Option.map_eq_some_iff,
    Option.map_eq_none_iff, Delivery.header?_eq_some_iff, Delivery.header?_eq_none_iff,
    Dialect.SignedBy, Prod.mk.injEq]
  constructor
  · rintro ⟨before, header, after, hs, ⟨value, hv, rfl, rfl⟩, hb⟩
    exact ⟨before, after, hs, hb, hv⟩
  · rintro ⟨before, after, hs, hb, hv⟩
    exact ⟨before, header, after, hs, ⟨value, hv, rfl, rfl⟩, hb⟩

theorem signature?_eq_none_iff :
    dialect.signature? delivery = none ↔ dialect.Unsigned delivery := by
  simp only [Dialect.signature?, List.findSome?_eq_none_iff, Option.map_eq_none_iff,
    Delivery.header?_eq_none_iff, Dialect.Unsigned]

end Signature

section Secret

open Payload

theorem Gitea.secret_eq_topSecret? {body : List UInt8} {payload : Gitea.PushPayload}
    (h : Gitea.PushPayload.shape.parse body = .ok payload) : payload.secret = topSecret? body := by
  obtain ⟨_, -, _, -, _, -, _, -, _, -, _, -, _, -, _, -, rfl⟩ :=
    range_leading_text (parse_eq_ok_iff.1 h).1
  rfl

theorem given?_given? (text : Option String) :
    Dialect.given? (Dialect.given? text) = Dialect.given? text := by
  simp [Dialect.given?, Option.filter_filter]

theorem decodeAs_eq_ok_iff {α : Type} {shape : Shape α} {convert : α → Except DecodeError Event}
    {body : List UInt8} {event : Event} :
    Dialect.decodeAs shape convert body = .ok event ↔
      ∃ payload, shape.parse body = .ok payload ∧ convert payload = .ok event := by
  simp only [Dialect.decodeAs, bind_eq_ok_iff, mapError_eq_ok_iff]

/-- An event without a secret in its payload. -/
theorem return_eq_ok_iff {event? : Except DecodeError Event} {decoded : Decoded} :
    (do return { event := ← event? } : Except DecodeError Decoded) = .ok decoded ↔
      ∃ event, event? = .ok event ∧ decoded = { event } := by
  rw [bind_eq_ok_iff]
  constructor
  · rintro ⟨event, he, h⟩
    exact ⟨event, he, (Except.ok.inj h).symm⟩
  · rintro ⟨event, he, rfl⟩
    exact ⟨event, he, rfl⟩

theorem Gitea.RefPayload.kind_ne_push {action : Action} {payload : Gitea.RefPayload}
    {event : Event} (h : payload.toEvent action = .ok event) : event.kind ≠ "push" := by
  unfold Gitea.RefPayload.toEvent at h
  split at h <;> obtain ⟨subject, hs, h⟩ := bind_eq_ok_iff.1 h <;> cases hs <;> cases h <;>
    simp [Event.kind, Subject.kind]

theorem Gitea.IssueCommentPayload.kind_ne_push (payload : Gitea.IssueCommentPayload) :
    payload.toEvent.kind ≠ "push" := by
  simp only [Event.kind, Gitea.IssueCommentPayload.toEvent]
  split <;> simp [Subject.kind]

/-- Only the payload of a push gives a secret, the one at its top. -/
theorem Gitea.secret_of_decodeTopic {body : List UInt8} {topic : Gitea.Topic} {decoded : Decoded}
    (h : Gitea.decodeTopic body topic = .ok decoded) :
    decoded.secret =
      if decoded.event.kind = "push" then Dialect.given? (topSecret? body) else none := by
  cases topic with
  | push =>
    obtain ⟨payload, hp, h⟩ := bind_eq_ok_iff.1 h
    cases h
    rw [Gitea.secret_eq_topSecret? (mapError_eq_ok_iff.1 hp)]
    rfl
  | create =>
    obtain ⟨event, he, rfl⟩ := return_eq_ok_iff.1 h
    obtain ⟨payload, -, he⟩ := decodeAs_eq_ok_iff.1 he
    rw [if_neg (Gitea.RefPayload.kind_ne_push he)]
  | delete =>
    obtain ⟨event, he, rfl⟩ := return_eq_ok_iff.1 h
    obtain ⟨payload, -, he⟩ := decodeAs_eq_ok_iff.1 he
    rw [if_neg (Gitea.RefPayload.kind_ne_push he)]
  | issueComment =>
    obtain ⟨event, he, rfl⟩ := return_eq_ok_iff.1 h
    obtain ⟨payload, -, he⟩ := decodeAs_eq_ok_iff.1 he
    cases he
    rw [if_neg payload.kind_ne_push]
  | _ =>
    obtain ⟨event, he, rfl⟩ := return_eq_ok_iff.1 h
    obtain ⟨payload, -, he⟩ := decodeAs_eq_ok_iff.1 he
    cases he
    rfl

theorem Gogs.secret_of_decode {name : String} {body : List UInt8} {decoded : Decoded}
    (h : Gogs.decode name body = .ok decoded) :
    decoded.secret =
      if decoded.event.kind = "push" then Dialect.given? (topSecret? body) else none := by
  unfold Gogs.decode at h
  split at h
  · exact Gitea.secret_of_decodeTopic h
  · split at h
    · obtain ⟨event, he, rfl⟩ := return_eq_ok_iff.1 h
      obtain ⟨payload, -, he⟩ := decodeAs_eq_ok_iff.1 he
      cases he
      rfl
    · cases h

/-- What the payload tells as a secret is what it embeds. -/
theorem given?_secret {provider : Provider} {dialect : Dialect} {delivery : Delivery}
    {decoded : Decoded} (hd : provider.dialect? = some dialect)
    (h : dialect.decodeDelivery delivery = .ok decoded) :
    Dialect.given? decoded.secret =
      Dialect.given? (embedded? provider decoded.event delivery.body) := by
  have given_ite {p : Prop} [Decidable p] (text : Option String) :
      Dialect.given? (if p then Dialect.given? text else none) =
        Dialect.given? (if p then text else none) := by
    split
    · exact given?_given? text
    · rfl
  cases provider with
  | gitea =>
    cases hd
    simp only [Dialect.decodeDelivery, Gitea.dialect] at h
    split at h
    · rw [Gitea.secret_of_decodeTopic h, given_ite]
      simp [embedded?]
    · cases h
  | gogs =>
    cases hd
    rw [Gogs.secret_of_decode h, given_ite]
    simp [embedded?]
  | fake => cases hd
  | _ =>
    cases hd
    simp only [Dialect.decodeDelivery, GitHub.dialect, GitLab.dialect, Bitbucket.dialect,
      Stash.dialect] at h
    split at h
    · obtain ⟨event, -, rfl⟩ := return_eq_ok_iff.1 h
      simp [embedded?]
    · cases h

theorem given?_eq_some_iff {text : Option String} {value : String} :
    Dialect.given? text = some value ↔ text = some value ∧ value ≠ "" := by
  simp [Dialect.given?, Option.filter_eq_some_iff]

theorem given?_eq_none_iff {text : Option String} :
    Dialect.given? text = none ↔ ∀ other, text = some other → other = "" := by
  simp [Dialect.given?, Option.filter_eq_none_iff]

/-- The secret that is compared is the one that the delivery has. -/
theorem hasSecret_iff {provider : Provider} {delivery : Delivery} {event : Event}
    {secret : String} :
    (Dialect.given? (embedded? provider event delivery.body) <|>
        delivery.param? secretParam) = some secret ↔
      HasSecret provider delivery event secret := by
  simp only [Option.orElse_eq_orElse, Option.orElse_eq_or, Option.or_eq_some_iff,
    given?_eq_some_iff, given?_eq_none_iff, Delivery.param?_eq_some_iff]
  constructor
  · rintro (⟨h, hs⟩ | ⟨h, query, hq, hs⟩)
    · exact .embedded h hs
    · exact .query h hq hs
  · rintro (⟨h, hs⟩ | ⟨h, hq, hs⟩)
    · exact .inl ⟨h, hs⟩
    · exact .inr ⟨h, _, hq, hs⟩

end Secret

section Proves

variable {provider : Provider} {dialect : Dialect} {delivery : Delivery} {event : Event}
  {key : String} (hd : provider.dialect? = some dialect)

include hd

/-- A signature that is present decides alone. -/
theorem proves_iff_of_signedBy {header : SignatureHeader} {value : String}
    (hs : dialect.SignedBy delivery header value) :
    Proves provider delivery event key ↔ header.scheme.Accepts key delivery.body value := by
  have hs := signature?_eq_some_iff.2 hs
  constructor
  · rintro (⟨hd', hs', ha⟩ | ⟨hd', hu, -⟩) <;> obtain rfl := Option.some.inj (hd.symm.trans hd')
    · cases hs.symm.trans (signature?_eq_some_iff.2 hs')
      exact ha
    · cases hs.symm.trans (signature?_eq_none_iff.2 hu)
  · exact .signature hd (signature?_eq_some_iff.1 hs)

theorem proves_iff_of_unsigned (hu : dialect.Unsigned delivery) :
    Proves provider delivery event key ↔ HasSecret provider delivery event key := by
  constructor
  · rintro (⟨hd', hs, -⟩ | ⟨-, -, hs⟩)
    · obtain rfl := Option.some.inj (hd.symm.trans hd')
      cases (signature?_eq_none_iff.2 hu).symm.trans (signature?_eq_some_iff.2 hs)
    · exact hs
  · exact .secret hd hu

theorem authentic_iff_proves {decoded : Decoded}
    (h : dialect.decodeDelivery delivery = .ok decoded) :
    dialect.authentic delivery decoded.secret key = true ↔
      Proves provider delivery decoded.event key := by
  simp only [Dialect.authentic, given?_secret hd h]
  split
  · next header value hs =>
    rw [Scheme.verify_iff, proves_iff_of_signedBy hd (signature?_eq_some_iff.1 hs)]
  · next hn =>
    rw [proves_iff_of_unsigned hd (signature?_eq_none_iff.1 hn), ← hasSecret_iff]
    split
    · next secret hs => rw [hs, tokenMatches_iff, Option.some_inj]
    · next hs => simp [hs]

theorem judge_of_proves {decoded : Decoded} (h : dialect.decodeDelivery delivery = .ok decoded)
    (hp : Proves provider delivery decoded.event key) :
    dialect.judge delivery decoded (.ok key) = .ok decoded.event := by
  simp [Dialect.judge, (authentic_iff_proves hd h).2 hp]

theorem judge_of_not_proves {decoded : Decoded}
    (h : dialect.decodeDelivery delivery = .ok decoded) (hk : key ≠ "")
    (hp : ¬ Proves provider delivery decoded.event key) :
    dialect.judge delivery decoded (.ok key) = .error (.forged decoded.event) := by
  rw [← authentic_iff_proves hd h] at hp
  simp [Dialect.judge, hp, hk]

end Proves

/-- A decoded delivery is accepted without a key, and with one exactly if it proves to know it. A
signature that is present has to prove that by itself. -/
theorem accepted_iff_proves {σ : Type} {provider : Provider} {delivery : Delivery} {event : Event}
    {key : String} {s t : σ} (resolve : Event → StateM σ (Except String String))
    (hw : Decodes provider delivery event) (hk : (resolve event).run s = (.ok key, t)) :
    (key = "" → (parse provider delivery resolve).run s = (.ok event, t)) ∧
    (key ≠ "" →
      ((parse provider delivery resolve).run s = (.ok event, t) ↔
        Proves provider delivery event key) ∧
      (¬ Proves provider delivery event key →
        (parse provider delivery resolve).run s = (.error (.forged event), t)) ∧
      ∀ dialect header value, provider.dialect? = some dialect →
        dialect.SignedBy delivery header value →
        ¬ header.scheme.Accepts key delivery.body value →
        (parse provider delivery resolve).run s = (.error (.forged event), t)) := by
  obtain ⟨dialect, decoded, hd, h, rfl⟩ := hw
  have hr : (parse provider delivery resolve).run s =
      (dialect.judge delivery decoded (.ok key), t) := by
    rw [parse_of_decoded _ hd h, StateT.run_map, hk]
    rfl
  rw [hr]
  have hforged (hk : key ≠ "") (hp : ¬ Proves provider delivery decoded.event key) :
      (dialect.judge delivery decoded (.ok key), t) = (.error (.forged decoded.event), t) := by
    rw [judge_of_not_proves hd h hk hp]
  refine ⟨?_, fun hk => ⟨⟨fun ho => ?_, fun hp => ?_⟩, hforged hk, ?_⟩⟩
  · rintro rfl
    rfl
  · refine Classical.byContradiction fun hp => ?_
    cases (hforged hk hp).symm.trans ho
  · rw [judge_of_proves hd h hp]
  · intro dialect header value hd hs ha
    exact hforged hk (by rwa [proves_iff_of_signedBy hd hs])

/-- The resolver that has the key `k` for every event. -/
def singleKey (_ : Event) : StateM Unit (Except String String) := pure (.ok "k")

theorem signedPush_signedBy : Gitea.dialect.SignedBy signedPush
    { name := "X-Gitea-Signature", scheme := .digest .sha256 none } "k" := by
  refine signature?_eq_some_iff.1 ?_
  simp only [Dialect.signature?, Delivery.header?, Delivery.sameName_eq]
  decide +kernel

theorem signedPush_not_accepts :
    ¬ (Scheme.digest .sha256 none).Accepts "k" signedPush.body "k" := by
  rw [← Scheme.verify_iff]
  decide +kernel

theorem signedPush_not_proves : ¬ Proves .gitea signedPush pushedEvent "k" :=
  mt (proves_iff_of_signedBy rfl signedPush_signedBy).1 signedPush_not_accepts

theorem signature_outranks_secret :
    Decodes .gitea signedPush pushedEvent ∧
      (singleKey pushedEvent).run () = (.ok "k", ()) ∧
      (parse .gitea signedPush singleKey).run () = (.error (.forged pushedEvent), ()) := by
  have hk : (singleKey pushedEvent).run () = (.ok "k", ()) := rfl
  have h := (accepted_iff_proves singleKey signedPush_decodes hk).2 (by decide)
  exact ⟨signedPush_decodes, hk, h.2.1 signedPush_not_proves⟩

end WebhookRelay
