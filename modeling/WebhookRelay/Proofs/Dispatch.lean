import WebhookRelay.Dispatch
import WebhookRelay.Proofs.Delivery

/-!
Decoding comes first: the resolver is asked once about the decoded event, or not at all, and what
it answers decides between accepting and refusing that event only.
-/

namespace WebhookRelay

/-- What is made of the answer of a resolver. -/
def Dialect.judge (dialect : Dialect) (delivery : Delivery) (decoded : Decoded) :
    Except String String → Except ParseError Event
  | .error cause => .error (.noKey decoded.event cause)
  | .ok key =>
    if key.isEmpty || dialect.authentic delivery decoded.secret key then .ok decoded.event
    else .error (.forged decoded.event)

/-- A resolver that notes the events it is asked about, in their order. -/
def noting {m : Type → Type} [Monad m] (resolve : Event → m (Except String String))
    (event : Event) : StateT (List Event) m (Except String String) := do
  modify (· ++ [event])
  resolve event

/-- The result for a resolver that has an empty key for every event. -/
def unkeyed (provider : Provider) (delivery : Delivery) : Except ParseError Event :=
  (parse provider delivery fun _ => (pure (.ok "") : Id (Except String String))).run

/-- The event that a result tells, accepted or not. -/
def carried? : Except ParseError Event → Option Event
  | .ok event => some event
  | .error cause => cause.event?

/-- Whether a provider decodes a delivery to an event. -/
def Decodes (provider : Provider) (delivery : Delivery) (event : Event) : Prop :=
  ∃ dialect decoded, provider.dialect? = some dialect ∧
    dialect.decodeDelivery delivery = .ok decoded ∧ decoded.event = event

/-- The headers that do not sign the delivery. -/
def Dialect.plainHeaders (dialect : Dialect) (headers : List (String × String)) :
    List (String × String) :=
  headers.filter fun pair => !dialect.signatures.any fun header =>
    Delivery.sameName pair.1 header.name

section Parse

variable {m : Type → Type} [Monad m] {provider : Provider} {delivery : Delivery} {dialect : Dialect}
  (resolve : Event → m (Except String String))

theorem parse_of_none (hd : provider.dialect? = none) :
    parse provider delivery resolve = pure (.error (.unsupported provider)) := by
  simp only [parse, hd]

theorem parse_of_undecoded {cause : DecodeError} (hd : provider.dialect? = some dialect)
    (h : dialect.decodeDelivery delivery = .error cause) :
    parse provider delivery resolve = pure (.error (.undecoded cause)) := by
  simp only [parse, hd, h]

theorem parse_of_decoded [LawfulMonad m] {decoded : Decoded}
    (hd : provider.dialect? = some dialect) (h : dialect.decodeDelivery delivery = .ok decoded) :
    parse provider delivery resolve =
      dialect.judge delivery decoded <$> resolve decoded.event := by
  simp only [parse, hd, h, map_eq_pure_bind]
  congr 1
  funext answer
  cases answer with
  | error cause => rfl
  | ok key =>
    simp only [Dialect.judge]
    split <;> rfl

theorem run_noting [LawfulMonad m] (event : Event) (calls : List Event) :
    (noting resolve event).run calls =
      (fun answer => (answer, calls ++ [event])) <$> resolve event := by
  simp [noting]

end Parse

theorem dialect?_eq_none_iff {provider : Provider} :
    provider.dialect? = none ↔ provider = .fake := by
  cases provider <;> simp [Provider.dialect?]

section Unkeyed

variable {provider : Provider} {delivery : Delivery} {dialect : Dialect}

theorem unkeyed_of_none (hd : provider.dialect? = none) :
    unkeyed provider delivery = .error (.unsupported provider) := by
  rw [unkeyed, parse_of_none _ hd]
  rfl

theorem unkeyed_of_undecoded {cause : DecodeError} (hd : provider.dialect? = some dialect)
    (h : dialect.decodeDelivery delivery = .error cause) :
    unkeyed provider delivery = .error (.undecoded cause) := by
  rw [unkeyed, parse_of_undecoded _ hd h]
  rfl

theorem unkeyed_of_decoded {decoded : Decoded} (hd : provider.dialect? = some dialect)
    (h : dialect.decodeDelivery delivery = .ok decoded) :
    unkeyed provider delivery = .ok decoded.event := by
  rw [unkeyed, parse_of_decoded _ hd h]
  rfl

/-- The three ways that a delivery can go before a key is asked for. -/
theorem unkeyed_cases (provider : Provider) (delivery : Delivery) :
    (provider = .fake ∧ unkeyed provider delivery = .error (.unsupported .fake)) ∨
    (∃ dialect cause, provider.dialect? = some dialect ∧
      dialect.decodeDelivery delivery = .error cause ∧
      unkeyed provider delivery = .error (.undecoded cause)) ∨
    (∃ dialect decoded, provider.dialect? = some dialect ∧
      dialect.decodeDelivery delivery = .ok decoded ∧
      unkeyed provider delivery = .ok decoded.event) := by
  cases hd : provider.dialect? with
  | none =>
    obtain rfl := dialect?_eq_none_iff.1 hd
    exact .inl ⟨rfl, unkeyed_of_none hd⟩
  | some dialect =>
    cases h : dialect.decodeDelivery delivery with
    | error cause => exact .inr (.inl ⟨dialect, cause, rfl, h, unkeyed_of_undecoded hd h⟩)
    | ok decoded => exact .inr (.inr ⟨dialect, decoded, rfl, h, unkeyed_of_decoded hd h⟩)

theorem unkeyed_eq_ok_iff {event : Event} :
    unkeyed provider delivery = .ok event ↔ Decodes provider delivery event := by
  obtain ⟨rfl, h⟩ | ⟨dialect, cause, hd, hc, h⟩ | ⟨dialect, decoded, hd, hc, h⟩ :=
    unkeyed_cases provider delivery <;> rw [h] <;> simp_all [Decodes, Provider.dialect?]

end Unkeyed

/-- The headers that sign a delivery never name its event. -/
theorem eventHeader_plain {provider : Provider} {dialect : Dialect}
    (hd : provider.dialect? = some dialect) {name : String}
    (hn : Delivery.sameName name dialect.eventHeader = true) :
    (dialect.signatures.any fun header => Delivery.sameName name header.name) = false := by
  have hn : name.map Char.toLower = dialect.eventHeader.map Char.toLower := beq_iff_eq.1 hn
  simp only [Delivery.sameName, hn]
  cases provider <;> cases hd <;> decide +kernel

/-- Decoding reads the body and the header of the event only. -/
theorem decodeDelivery_congr {provider : Provider} {dialect : Dialect}
    (hd : provider.dialect? = some dialect) {delivery other : Delivery}
    (hb : delivery.body = other.body)
    (hh : dialect.plainHeaders delivery.headers = dialect.plainHeaders other.headers) :
    dialect.decodeDelivery delivery = dialect.decodeDelivery other := by
  have hf (d : Delivery) : d.header? dialect.eventHeader =
      ((dialect.plainHeaders d.headers).find? fun pair =>
        Delivery.sameName pair.1 dialect.eventHeader && !pair.2.isEmpty).map Prod.snd := by
    rw [Dialect.plainHeaders, List.find?_filter]
    simp only [Delivery.header?]
    congr 2
    funext pair
    cases hn : Delivery.sameName pair.1 dialect.eventHeader with
    | false => simp
    | true => simp only [eventHeader_plain hd hn, Bool.not_false, Bool.true_and, true_and,
        Bool.decide_eq_true]
  simp only [Dialect.decodeDelivery, hf, hb, hh]

theorem unkeyed_congr {provider : Provider} {delivery other : Delivery}
    (hb : delivery.body = other.body)
    (hh : ∀ dialect, provider.dialect? = some dialect →
      dialect.plainHeaders delivery.headers = dialect.plainHeaders other.headers) :
    unkeyed provider delivery = unkeyed provider other := by
  obtain ⟨rfl, h⟩ | ⟨dialect, cause, hd, hc, h⟩ | ⟨dialect, decoded, hd, hc, h⟩ :=
    unkeyed_cases provider delivery
  · rw [h, unkeyed_of_none rfl]
  · rw [decodeDelivery_congr hd hb (hh dialect hd)] at hc
    rw [h, unkeyed_of_undecoded hd hc]
  · rw [decodeDelivery_congr hd hb (hh dialect hd)] at hc
    rw [h, unkeyed_of_decoded hd hc]

/-- Whatever a resolver answers, the result carries the event it was asked about. -/
theorem carried?_judge (dialect : Dialect) (delivery : Delivery) (decoded : Decoded)
    (answer : Except String String) :
    carried? (dialect.judge delivery decoded answer) = some decoded.event := by
  cases answer with
  | error cause => rfl
  | ok key =>
    simp only [Dialect.judge]
    split <;> rfl

theorem map_carried?_parse {m : Type → Type} [Monad m] [LawfulMonad m] (provider : Provider)
    (delivery : Delivery) (resolve : Event → m (Except String String)) :
    carried? <$> parse provider delivery resolve =
      (fun _ => (unkeyed provider delivery).toOption) <$> parse provider delivery resolve := by
  obtain ⟨rfl, h⟩ | ⟨dialect, cause, hd, hc, h⟩ | ⟨dialect, decoded, hd, hc, h⟩ :=
    unkeyed_cases provider delivery
  · rw [h, parse_of_none _ rfl, map_pure, map_pure]
    rfl
  · rw [h, parse_of_undecoded _ hd hc, map_pure, map_pure]
    rfl
  · rw [h, parse_of_decoded _ hd hc]
    simp only [← comp_map, Function.comp_def, carried?_judge, Except.toOption]

theorem unkeyed_eq_unsupported_iff {provider : Provider} {delivery : Delivery} :
    unkeyed provider delivery = .error (.unsupported .fake) ↔ provider = .fake := by
  constructor
  · intro h
    obtain ⟨hp, -⟩ | ⟨dialect, cause, hd, hc, hu⟩ | ⟨dialect, decoded, hd, hc, hu⟩ :=
      unkeyed_cases provider delivery
    · exact hp
    · cases hu.symm.trans h
    · cases hu.symm.trans h
  · rintro rfl
    exact unkeyed_of_none rfl

section Noting

variable {provider : Provider} {delivery : Delivery}

/-- A delivery fails before a key is asked for because its provider sends none, because the name
of its event is not known, or because its body is malformed. -/
theorem cause_of_unkeyed {cause : ParseError} (h : unkeyed provider delivery = .error cause) :
    cause = .unsupported .fake ∨ (∃ name, cause = .undecoded (.unknownEvent name)) ∨
      ∃ fault, cause = .undecoded (.malformed fault) := by
  obtain ⟨hp, hu⟩ | ⟨dialect, fault, hd, hc, hu⟩ | ⟨dialect, decoded, hd, hc, hu⟩ :=
    unkeyed_cases provider delivery
  · exact .inl (Except.error.inj (h.symm.trans hu))
  · obtain rfl : cause = .undecoded fault := Except.error.inj (h.symm.trans hu)
    cases fault with
    | unknownEvent name => exact .inr (.inl ⟨name, rfl⟩)
    | malformed fault => exact .inr (.inr ⟨fault, rfl⟩)
  · cases hu.symm.trans h

theorem run_parse_of_unkeyed_error {cause : ParseError}
    (h : unkeyed provider delivery = .error cause) {m : Type → Type} [Monad m] [LawfulMonad m]
    (resolve : Event → m (Except String String)) (calls : List Event) :
    (parse provider delivery (noting resolve)).run calls = pure (.error cause, calls) := by
  obtain ⟨rfl, hu⟩ | ⟨dialect, fault, hd, hc, hu⟩ | ⟨dialect, decoded, hd, hc, hu⟩ :=
    unkeyed_cases provider delivery
  · obtain rfl : cause = .unsupported .fake := Except.error.inj (h.symm.trans hu)
    rw [parse_of_none _ rfl]
    rfl
  · obtain rfl : cause = .undecoded fault := Except.error.inj (h.symm.trans hu)
    rw [parse_of_undecoded _ hd hc]
    rfl
  · cases hu.symm.trans h

theorem exists_verdict {event : Event} (h : unkeyed provider delivery = .ok event) :
    ∃ verdict : String → Except ParseError Event,
      (∀ key, verdict key = .ok event ∨ verdict key = .error (.forged event)) ∧
      ∀ (m : Type → Type) [Monad m] [LawfulMonad m] (resolve : Event → m (Except String String))
        (calls : List Event),
        (parse provider delivery (noting resolve)).run calls =
          (fun answer => (match answer with
            | .ok key => verdict key
            | .error cause => .error (.noKey event cause), calls ++ [event])) <$> resolve event := by
  obtain ⟨dialect, decoded, hd, hc, rfl⟩ := unkeyed_eq_ok_iff.1 h
  refine ⟨fun key => dialect.judge delivery decoded (.ok key), fun key => ?_,
    fun m _ _ resolve calls => ?_⟩
  · simp only [Dialect.judge]
    split
    · exact .inl rfl
    · exact .inr rfl
  · rw [parse_of_decoded _ hd hc, StateT.run_map, run_noting, ← comp_map]
    congr 1
    funext answer
    cases answer <;> rfl

end Noting

/-- Asking for the key never changes what is decoded. A delivery that fails before it fails in the
same way for every resolver, none of which is asked. Any other is put to the resolver once, and the
result tells the decoded event, whatever signs the delivery. -/
theorem resolver_sees_decoded_event (provider : Provider) (delivery : Delivery) :
    (unkeyed provider delivery = .error (.unsupported .fake) ↔ provider = .fake) ∧
    (∀ cause, unkeyed provider delivery = .error cause →
      (cause = .unsupported .fake ∨ (∃ name, cause = .undecoded (.unknownEvent name)) ∨
        ∃ fault, cause = .undecoded (.malformed fault)) ∧
      ∀ (m : Type → Type) [Monad m] [LawfulMonad m] (resolve : Event → m (Except String String))
        (calls : List Event),
        (parse provider delivery (noting resolve)).run calls = pure (.error cause, calls)) ∧
    (∀ event, unkeyed provider delivery = .ok event →
      ∃ verdict : String → Except ParseError Event,
        (∀ key, verdict key = .ok event ∨ verdict key = .error (.forged event)) ∧
        ∀ (m : Type → Type) [Monad m] [LawfulMonad m] (resolve : Event → m (Except String String))
          (calls : List Event),
          (parse provider delivery (noting resolve)).run calls =
            (fun answer => (match answer with
              | .ok key => verdict key
              | .error cause => .error (.noKey event cause), calls ++ [event])) <$> resolve event) ∧
    (∀ headers query, (∀ dialect, provider.dialect? = some dialect →
        dialect.plainHeaders headers = dialect.plainHeaders delivery.headers) →
      ∀ (m : Type → Type) [Monad m] [LawfulMonad m] (resolve : Event → m (Except String String)),
        let result := parse provider { delivery with headers, query } resolve
        carried? <$> result = (fun _ => (unkeyed provider delivery).toOption) <$> result) := by
  refine ⟨unkeyed_eq_unsupported_iff, fun cause h => ⟨cause_of_unkeyed h, ?_⟩,
    fun event h => exists_verdict h, ?_⟩
  · intro m _ _ resolve calls
    exact run_parse_of_unkeyed_error h resolve calls
  · intro headers query hh m _ _ resolve
    have hu : unkeyed provider { delivery with headers, query } = unkeyed provider delivery :=
      unkeyed_congr rfl hh
    rw [← hu]
    exact map_carried?_parse _ _ resolve

/-- A push to Gitea whose payload carries the secret `k`, with a signature that is no digest. -/
def signedPush : Delivery where
  headers := [("x-gitea-event", "push"), ("X-Gitea-Signature", ""), ("x-gitea-signature", "k")]
  query := some "secret=k"
  body := Text.Utf8.encode <|
    "\x7b\"secret\":\"k\",\"ref\":\"r\",\"before\":\"a\",\"after\":\"b\"," ++
    "\"repository\":\x7b\"id\":1,\"owner\":\x7b\x7d,\"name\":\"n\"\x7d," ++
    "\"pusher\":\x7b\x7d,\"sender\":\x7b\x7d\x7d"
  body_le := by decide +kernel

def pushedEvent : Event where
  subject := .push
    { ref := "r", before := "a", after := "b", compare := "", commit := .pushedBy {} "b" ""
      commits := [] }
  repo := { id := "1", name := "n" }
  sender := {}

theorem decodes_of_toOption {provider : Provider} {dialect : Dialect} {delivery : Delivery}
    {decoded : Decoded} (hd : provider.dialect? = some dialect)
    (h : (dialect.decodeDelivery delivery).toOption = some decoded) :
    Decodes provider delivery decoded.event := by
  refine ⟨dialect, decoded, hd, ?_, rfl⟩
  cases hc : dialect.decodeDelivery delivery with
  | error cause =>
    rw [hc] at h
    cases h
  | ok other =>
    rw [hc] at h
    exact congrArg Except.ok (Option.some.inj h)

theorem decodeDelivery_of_header {dialect : Dialect} {delivery : Delivery} {name : String}
    (hn : delivery.header? dialect.eventHeader = some name) :
    dialect.decodeDelivery delivery = dialect.decode name delivery.body := by
  rw [Dialect.decodeDelivery, hn, Option.getD_some]

theorem signedPush_decodes : Decodes .gitea signedPush pushedEvent := by
  have hn : signedPush.header? Gitea.dialect.eventHeader = some "push" := by
    simp only [Delivery.header?, Delivery.sameName_eq]
    decide +kernel
  have h : (Gitea.dialect.decodeDelivery signedPush).toOption =
      some { event := pushedEvent, secret := some "k" } := by
    rw [decodeDelivery_of_header hn]
    decide +kernel
  exact decodes_of_toOption rfl h

/-- The resolver that has no answer. -/
def silent (_ : Event) : Id (Except String String) := .error "down"

theorem signedPush_asked_once :
    unkeyed .gitea signedPush = .ok pushedEvent ∧
    (parse .gitea signedPush (noting silent)).run [] =
      (.error (.noKey pushedEvent "down"), [pushedEvent]) ∧
    unkeyed .fake signedPush = .error (.unsupported .fake) ∧
    (parse .fake signedPush (noting silent)).run [] = (.error (.unsupported .fake), []) := by
  have hg := unkeyed_eq_ok_iff.2 signedPush_decodes
  obtain ⟨verdict, -, ho⟩ := (resolver_sees_decoded_event .gitea signedPush).2.2.1 pushedEvent hg
  have hf := (resolver_sees_decoded_event .fake signedPush).1.2 rfl
  have he := ((resolver_sees_decoded_event .fake signedPush).2.1 _ hf).2
  exact ⟨hg, ho Id silent [], hf, he Id silent []⟩

end WebhookRelay
