import WebhookRelay.Proofs.Body
import WebhookRelay.Proofs.Receiver
import WebhookRelay.Proofs.Route

/-!
The status of an answer. What keeps a request from being accepted counts in one order: the route,
the size of the body, the name of the provider, the provider's having webhooks, the decoding, the
proof of the key, and the channel. A body that breaks off before its end is refused as such.
-/

namespace WebhookRelay.Receiver

/-- The statuses, each with what is wrong with the request and nothing that counts before that. -/
inductive HasStatus (rules : List Rule) (isOpen : Bool) (r : Request) : Nat → Prop
  | noRoute (hn : ∀ name, ¬ r.Names name) : HasStatus rules isOpen r 404
  | bodyTooLarge {name : String} (hn : r.Names name) (hb : maxBody < r.body.length) :
      HasStatus rules isOpen r 413
  | unknownProvider {name : String} (hn : r.Names name) (hb : r.body.length ≤ maxBody)
      (hp : ∀ provider, (name, provider) ∉ Provider.spellings) : HasStatus rules isOpen r 404
  | unsupported {delivery : Delivery} (hc : r.Carries .fake delivery) : HasStatus rules isOpen r 501
  | undecoded {provider : Provider} {delivery : Delivery} {dialect : Dialect} {cause : DecodeError}
      (hc : r.Carries provider delivery) (hd : provider.dialect? = some dialect)
      (he : dialect.decodeDelivery delivery = .error cause) : HasStatus rules isOpen r 400
  | forged {provider : Provider} {delivery : Delivery} {event : Event}
      (hc : r.Carries provider delivery) (hd : Decodes provider delivery event)
      (hk : Rule.keyFor rules provider event.repo.fullName ≠ "")
      (hp : ¬ Proves provider delivery event (Rule.keyFor rules provider event.repo.fullName)) :
      HasStatus rules isOpen r 401
  | closed {provider : Provider} {delivery : Delivery} {event : Event}
      (hc : r.Carries provider delivery) (hd : Decodes provider delivery event)
      (ha : Admitted rules provider delivery event) (ho : isOpen = false) :
      HasStatus rules isOpen r 500
  | accepted {provider : Provider} {delivery : Delivery} {event : Event}
      (hc : r.Carries provider delivery) (hd : Decodes provider delivery event)
      (ha : Admitted rules provider delivery event) (ho : isOpen = true) :
      HasStatus rules isOpen r 200

/-- The answers to a request whose body has some content. No channel is touched but for a whole
body. -/
inductive Receives (rules : List Rule) (channel : Channel) (r : Request) :
    Content → Answer × Channel → Prop
  | noRoute {content : Content} (hn : ∀ name, ¬ r.Names name) :
      Receives rules channel r content (.refused .noRoute, channel)
  | bodyTooLarge {content : Content} {name : String} (hn : r.Names name)
      (hb : content.Reaches 10000001) :
      Receives rules channel r content (.refused .bodyTooLarge, channel)
  | bodyUnread {bytes : List UInt8} {cause name : String} (hn : r.Names name)
      (hb : bytes.length ≤ 10000000) :
      Receives rules channel r (.finite bytes (.fails cause)) (.refused (.bodyUnread cause), channel)
  | whole {bytes : List UInt8} {name : String} (hn : r.Names name) (hb : bytes.length ≤ 10000000) :
      Receives rules channel r (.finite bytes .ends) (handle rules channel { r with body := bytes })

variable {rules : List Rule} {channel : Channel} {r : Request} {provider : Provider}
  {delivery : Delivery} {event : Event}

theorem brings_of_carries (hc : r.Carries provider delivery) (hd : Decodes provider delivery event) :
    r.Brings provider delivery event := by
  obtain ⟨hr, he⟩ := Request.carries_iff.1 hc
  exact ⟨hr, he, hd⟩

theorem status_forward (channel : Channel) (provider : Provider) (event : Event) :
    (forward channel provider event).1.status = if channel.isOpen then 200 else 500 := by
  unfold forward Channel.send?
  cases channel.isOpen with
  | true => rfl
  | false => rfl

theorem handle_of_parse_error {cause : ParseError} (hc : r.Carries provider delivery)
    (he : (parse provider delivery (resolver rules provider)).run = .error cause) :
    handle rules channel r = (.refused (.unparsed cause), channel) := by
  obtain ⟨⟨name, hr, hp⟩, hd⟩ := Request.carries_iff.1 hc
  unfold handle
  simp only [hr, hd, hp, he]

theorem status_of_hasStatus {status : Nat} (h : HasStatus rules channel.isOpen r status) :
    (handle rules channel r).1.status = status := by
  cases h with
  | noRoute hn =>
    unfold handle
    simp only [Request.route?_eq_none_iff.2 hn]
    rfl
  | bodyTooLarge hn hb =>
    unfold handle
    simp only [Request.route?_eq_some_iff.2 hn, Request.delivery_of_tooLarge hb]
    rfl
  | @unknownProvider name hn hb hp =>
    have hd : r.delivery = .ok { headers := r.headers, query := r.query?, body := r.body, body_le := hb } :=
      Request.delivery_eq_ok_iff.2 ⟨rfl, rfl, rfl⟩
    have hs : Provider.ofName? name = none := Provider.ofName?_eq_none_iff.2 hp
    unfold handle
    simp only [Request.route?_eq_some_iff.2 hn, hd, hs]
    rfl
  | @unsupported delivery hc =>
    have hn : Provider.dialect? .fake = none := rfl
    have he : (parse .fake delivery (resolver rules .fake)).run = .error (.unsupported .fake) :=
      parse_of_none _ hn
    rw [handle_of_parse_error hc he]
    rfl
  | @undecoded provider delivery dialect cause hc hd he =>
    have he := parse_of_undecoded (resolver rules provider) hd he
    rw [handle_of_parse_error hc he]
    rfl
  | forged hc hd hk hp =>
    have ha : ¬ Admitted rules _ _ _ := not_or.2 ⟨hk, hp⟩
    rw [(handle_of_brings (brings_of_carries hc hd) channel).2 ha]
    rfl
  | closed hc hd ha ho =>
    rw [(handle_of_brings (brings_of_carries hc hd) channel).1 ha, status_forward, ho]
    rfl
  | accepted hc hd ha ho =>
    rw [(handle_of_brings (brings_of_carries hc hd) channel).1 ha, status_forward, ho]
    rfl

theorem exists_hasStatus_of_carries (rules : List Rule) (isOpen : Bool)
    (hc : r.Carries provider delivery) : ∃ status, HasStatus rules isOpen r status := by
  obtain ⟨rfl, -⟩ | ⟨dialect, cause, hd, he, -⟩ | ⟨dialect, decoded, hd, he, -⟩ :=
    unkeyed_cases provider delivery
  · exact ⟨501, .unsupported hc⟩
  · exact ⟨400, .undecoded hc hd he⟩
  · have hw : Decodes provider delivery decoded.event := ⟨dialect, decoded, hd, he, rfl⟩
    by_cases ha : Admitted rules provider delivery decoded.event
    · cases isOpen with
      | true => exact ⟨200, .accepted hc hw ha rfl⟩
      | false => exact ⟨500, .closed hc hw ha rfl⟩
    · have ha := not_or.1 ha
      exact ⟨401, .forged hc hw ha.1 ha.2⟩

theorem exists_hasStatus (rules : List Rule) (isOpen : Bool) (r : Request) :
    ∃ status, HasStatus rules isOpen r status := by
  by_cases hn : ∃ name, r.Names name
  · obtain ⟨name, hn⟩ := hn
    rcases Nat.lt_or_ge maxBody r.body.length with hb | hb
    · exact ⟨413, .bodyTooLarge hn hb⟩
    · by_cases hp : ∃ provider, (name, provider) ∈ Provider.spellings
      · obtain ⟨provider, hp⟩ := hp
        have hc : r.Carries provider
            { headers := r.headers, query := r.query?, body := r.body, body_le := hb } :=
          ⟨⟨name, hn, hp⟩, rfl, rfl, rfl⟩
        exact exists_hasStatus_of_carries rules isOpen hc
      · exact ⟨404, .unknownProvider hn hb (not_exists.1 hp)⟩
  · exact ⟨404, .noRoute (not_exists.1 hn)⟩

theorem status_eq_iff {status : Nat} :
    (handle rules channel r).1.status = status ↔ HasStatus rules channel.isOpen r status := by
  constructor
  · rintro rfl
    obtain ⟨status, h⟩ := exists_hasStatus rules channel.isOpen r
    rwa [status_of_hasStatus h]
  · exact status_of_hasStatus

theorem receives_of_holds {source : Source} {content : Content} (h : source.Holds content) :
    Receives rules channel r content (receive rules channel r source) := by
  unfold receive
  rw [Delivery.ofSource_eq h]
  cases hr : r.route? with
  | none => exact .noRoute (Request.route?_eq_none_iff.1 hr)
  | some name =>
    have hn := Request.route?_eq_some_iff.1 hr
    by_cases hb : content.Reaches 10000001
    · rw [Content.delivery_eq_tooLarge_iff.2 hb]
      exact .bodyTooLarge hn hb
    · cases content with
      | endless bytes => exact absurd trivial hb
      | finite bytes stop =>
        have hl : bytes.length ≤ maxBody := Nat.le_of_not_lt hb
        cases stop with
        | ends =>
          rw [Content.delivery, Delivery.ofBody_eq_ok hl]
          exact .whole hn hl
        | fails cause =>
          rw [Content.delivery, if_neg (Nat.not_lt_of_le hl)]
          exact .bodyUnread hn hl

/-- The status of an answer is that of the first thing that is wrong with the request. It is 500 for
nothing but a closed channel, which otherwise accepts, and never 500 for a key or a link. All this is
so once the body is whole, in however many reads it comes. -/
theorem status_of_first_failure (rules : List Rule) (channel : Channel) (r : Request) :
    (∀ status, (handle rules channel r).1.status = status ↔
      HasStatus rules channel.isOpen r status) ∧
    (∀ provider delivery dialect fault text, r.Carries provider delivery →
      provider.dialect? = some dialect →
      dialect.decodeDelivery delivery = .error (.malformed (.badLink fault text)) →
      (handle rules channel r).1.status = 400) ∧
    ((handle rules channel r).1.status = 500 ↔
      channel.isOpen = false ∧ HasStatus rules true r 200) ∧
    ∀ source content, Source.Holds source content →
      Receives rules channel r content (receive rules channel r source) := by
  refine ⟨fun status => status_eq_iff, ?_, ?_, fun source content => receives_of_holds⟩
  · intro provider delivery dialect fault text hc hd he
    exact status_of_hasStatus (.undecoded hc hd he)
  · rw [status_eq_iff]
    constructor
    · intro h
      cases h with
      | closed hc hd ha ho => exact ⟨ho, .accepted hc hd ha rfl⟩
    · rintro ⟨ho, h⟩
      cases h with
      | accepted hc hd ha _ => exact .closed hc hd ha ho

/-- A tag in a repository whose link is none. -/
def strayLink : Delivery where
  headers := [("X-GitHub-Event", "create")]
  body := Text.Utf8.encode <|
    "\x7b\"ref\":\"v\",\"ref_type\":\"tag\"," ++
    "\"repository\":\x7b\"id\":1,\"name\":\"n\",\"owner\":\x7b\"login\":\"o\"\x7d," ++
    "\"html_url\":\"n\"\x7d,\"sender\":\x7b\"login\":\"s\"\x7d\x7d"
  body_le := by decide +kernel

def isStray : Except DecodeError Decoded → Bool
  | .error (.malformed (.badLink .noScheme text)) => text == "n"
  | _ => false

theorem eq_of_isStray {result : Except DecodeError Decoded} (h : isStray result = true) :
    result = .error (.malformed (.badLink .noScheme "n")) := by
  unfold isStray at h
  split at h
  · rw [eq_of_beq h]
  · cases h

theorem strayLink_undecoded :
    GitHub.dialect.decodeDelivery strayLink = .error (.malformed (.badLink .noScheme "n")) := by
  have hn : strayLink.header? GitHub.dialect.eventHeader = some "create" := by
    simp only [Delivery.header?, Delivery.sameName_eq]
    decide +kernel
  rw [decodeDelivery_of_header hn]
  apply eq_of_isStray
  decide +kernel

def strayLinkRequest : Request where
  target := "/api/webhooks/github"
  headers := strayLink.headers
  body := strayLink.body

theorem strayLinkRequest_carries : strayLinkRequest.Carries .github strayLink := by
  have hb : strayLinkRequest.body = strayLink.body := by rw [strayLinkRequest]
  have hr : strayLinkRequest.route? = some "github" := by decide +kernel
  have hp : Provider.ofName? "github" = some .github := by decide +kernel
  have hq : strayLinkRequest.query? = strayLink.query := by decide +kernel
  exact Request.carries_iff.2 ⟨⟨"github", hr, hp⟩, delivery_eq_ok hb rfl hq⟩

def hugeRequest : Request where
  target := "/api/webhooks/fake"
  body := List.replicate (maxBody + 1) 0x20

theorem hugeRequest_tooLarge : maxBody < hugeRequest.body.length := by
  show maxBody < (List.replicate (maxBody + 1) 0x20).length
  rw [List.length_replicate]
  omega

/-- What is wrong with the payload counts before the closed channel, and the size of a body counts
before a provider that has no webhooks. -/
theorem strayLinkRequest_refused :
    strayLinkRequest.Carries .github strayLink ∧
    GitHub.dialect.decodeDelivery strayLink = .error (.malformed (.badLink .noScheme "n")) ∧
    (handle [] { isOpen := false } strayLinkRequest).1.status = 400 ∧
    (handle [] { isOpen := false } hugeRequest).1.status = 413 := by
  have hs := status_of_first_failure [] { isOpen := false } strayLinkRequest
  have hh := status_of_first_failure [] { isOpen := false } hugeRequest
  have hr : hugeRequest.route? = some "fake" := by decide +kernel
  have ht : HasStatus [] false hugeRequest 413 :=
    .bodyTooLarge (Request.route?_eq_some_iff.1 hr) hugeRequest_tooLarge
  exact ⟨strayLinkRequest_carries, strayLink_undecoded,
    hs.2.1 _ _ _ _ _ strayLinkRequest_carries rfl strayLink_undecoded, (hh.1 413).2 ht⟩

end WebhookRelay.Receiver
