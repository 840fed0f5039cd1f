import WebhookRelay.Proofs.Dispatch
import Mathlib.Logic.Relation

/-!
What may happen to a delivery on its way without any effect: its headers are recased, reordered and
repeated, and others come in between, as do parameters of its query. All of that leaves alone what
is read of a delivery, and so the result for every resolver.
-/

namespace WebhookRelay

section ValueUnder

variable {p : String → Bool} {before extra after : List (String × String)}

/-- Pairs may come in if none of them gives a value, or if one is given before them. -/
theorem valueUnder?_insert
    (h : NoneGiven extra (p · = true) ∨ ∃ pair ∈ before, p pair.1 = true ∧ pair.2 ≠ "") :
    valueUnder? p (before ++ (extra ++ after)) = valueUnder? p (before ++ after) := by
  unfold valueUnder?
  rw [List.find?_append, List.find?_append, List.find?_append]
  rcases h with hn | ⟨pair, hm, hp, hv⟩
  · have hx : extra.find? (fun pair => p pair.1 && !pair.2.isEmpty) = none := by
      simpa [NoneGiven] using hn
    rw [hx, Option.none_or]
  · have hf : (before.find? fun pair => p pair.1 && !pair.2.isEmpty).isSome = true := by
      rw [List.find?_isSome]
      exact ⟨pair, hm, by simp [hp, hv]⟩
    obtain ⟨found, hf⟩ := Option.isSome_iff_exists.1 hf
    rw [hf, Option.some_or, Option.some_or]

theorem valueUnder?_swap {first second : String × String}
    (h : ¬ (p first.1 = true ∧ p second.1 = true)) :
    valueUnder? p (before ++ first :: second :: after) =
      valueUnder? p (before ++ second :: first :: after) := by
  unfold valueUnder?
  rw [List.find?_append, List.find?_append]
  simp only [List.find?_cons]
  cases hf : p first.1 <;> cases hs : p second.1 <;> simp_all

theorem valueUnder?_rename {name other value : String} (h : p name = p other) :
    valueUnder? p (before ++ (name, value) :: after) =
      valueUnder? p (before ++ (other, value) :: after) := by
  unfold valueUnder?
  rw [List.find?_append, List.find?_append, Option.map_or, Option.map_or, List.find?_cons,
    List.find?_cons, h]
  cases p other && !value.isEmpty <;> rfl

end ValueUnder

namespace Query

theorem params_append (left right : String) :
    params (left ++ "&" ++ right) = params left ++ params right := by
  have he : Text.Utf8.encode (left ++ "&" ++ right) =
      Text.Utf8.encode left ++ 0x26 :: Text.Utf8.encode right := by
    simp only [Text.Utf8.encode, String.toList_append, List.flatMap_append]
    rw [List.append_assoc]
    rfl
  simp only [params, he, List.splitOn_append_cons_self, List.filter_append, List.map_append]

/-- The parameters of a query are those of its pieces. -/
theorem params_intercalate (pieces : List String) :
    params ("&".intercalate pieces) = pieces.flatMap params := by
  induction pieces with
  | nil => decide +kernel
  | cons piece pieces ih =>
    cases pieces with
    | nil => simp
    | cons next rest =>
      rw [String.intercalate_cons_cons, params_append, ih]
      rfl

end Query

/-- The names of the headers that a dialect reads. -/
def Dialect.headerNames (dialect : Dialect) : List String :=
  dialect.eventHeader :: dialect.signatures.map SignatureHeader.name

/-- Whether no dialect of this provider reads a header of this name. -/
def Provider.Ignores (provider : Provider) (name : String) : Prop :=
  ∀ dialect, provider.dialect? = some dialect →
    ∀ read ∈ dialect.headerNames, Delivery.sameName name read = false

/-- The edits of headers that say nothing new to a provider. -/
inductive HeaderNoise (provider : Provider) :
    List (String × String) → List (String × String) → Prop
  | recase {before after : List (String × String)} {name other value : String}
      (hn : Delivery.sameName name other = true) :
      HeaderNoise provider (before ++ (name, value) :: after) (before ++ (other, value) :: after)
  | empty {before after : List (String × String)} {name : String} :
      HeaderNoise provider (before ++ after) (before ++ (name, "") :: after)
  | swap {before after : List (String × String)} {first second : String × String}
      (hn : Delivery.sameName first.1 second.1 = false) :
      HeaderNoise provider (before ++ first :: second :: after) (before ++ second :: first :: after)
  | ignored {before after : List (String × String)} {name value : String}
      (hn : provider.Ignores name) :
      HeaderNoise provider (before ++ after) (before ++ (name, value) :: after)
  | again {before after : List (String × String)} {name value : String}
      (hg : ∃ pair ∈ before, Delivery.sameName pair.1 name = true ∧ pair.2 ≠ "") :
      HeaderNoise provider (before ++ after) (before ++ (name, value) :: after)

/-- The pieces that may come between the `&`s of a query: those that give no secret, and any that
follow a secret which is not empty. -/
inductive QueryNoise : Option String → Option String → Prop
  | idle {query : Option String} {before after : List String} {piece : String}
      (hq : query.getD "" = "&".intercalate (before ++ after))
      (hn : NoneGiven (Query.params piece) (· = secretParam)) :
      QueryNoise query (some ("&".intercalate (before ++ piece :: after)))
  | late {query : Option String} {before after : List String} {piece value : String}
      (hq : query.getD "" = "&".intercalate (before ++ after))
      (hs : (secretParam, value) ∈ before.flatMap Query.params) (hv : value ≠ "") :
      QueryNoise query (some ("&".intercalate (before ++ piece :: after)))

inductive Noise (provider : Provider) : Delivery → Delivery → Prop
  | headers {delivery : Delivery} {headers : List (String × String)}
      (h : HeaderNoise provider delivery.headers headers) :
      Noise provider delivery { delivery with headers }
  | query {delivery : Delivery} {query : Option String} (h : QueryNoise delivery.query query) :
      Noise provider delivery { delivery with query }

theorem findSome?_congr {α β : Type} {f g : α → Option β} {items : List α}
    (h : ∀ item ∈ items, f item = g item) : items.findSome? f = items.findSome? g := by
  induction items with
  | nil => rfl
  | cons item items ih =>
    rw [List.findSome?_cons, List.findSome?_cons, h item List.mem_cons_self,
      ih fun later hm => h later (List.mem_cons_of_mem item hm)]

/-- A delivery proves to be authentic by its body, its signatures and the secret in its query. -/
theorem authentic_congr {dialect : Dialect} {delivery other : Delivery}
    (hb : delivery.body = other.body)
    (hs : ∀ header ∈ dialect.signatures,
      delivery.header? header.name = other.header? header.name)
    (hq : delivery.param? secretParam = other.param? secretParam) (secret : Option String)
    (key : String) :
    dialect.authentic delivery secret key = dialect.authentic other secret key := by
  have hsign : dialect.signature? delivery = dialect.signature? other :=
    findSome?_congr fun header hm => by rw [hs header hm]
  rw [Dialect.authentic, Dialect.authentic, hsign, hb, hq]

/-- The result is decided by what is decoded, and by what proves that it is authentic. -/
theorem parse_congr {provider : Provider} {dialect : Dialect}
    (hd : provider.dialect? = some dialect) {delivery other : Delivery}
    (hdecode : dialect.decodeDelivery delivery = dialect.decodeDelivery other)
    (hb : delivery.body = other.body)
    (hs : ∀ header ∈ dialect.signatures,
      delivery.header? header.name = other.header? header.name)
    (hq : delivery.param? secretParam = other.param? secretParam) {m : Type → Type} [Monad m]
    (resolve : Event → m (Except String String)) :
    parse provider delivery resolve = parse provider other resolve := by
  simp only [parse, hd, hdecode, authentic_congr hb hs hq]

/-- Whether a provider reads the same of two deliveries. -/
structure ReadsAlike (provider : Provider) (delivery other : Delivery) : Prop where
  body_eq : delivery.body = other.body
  header_eq : ∀ dialect, provider.dialect? = some dialect →
    ∀ name ∈ dialect.headerNames, delivery.header? name = other.header? name
  secret_eq : delivery.param? secretParam = other.param? secretParam

namespace ReadsAlike

variable {provider : Provider} {delivery other third : Delivery}

theorem refl (provider : Provider) (delivery : Delivery) : ReadsAlike provider delivery delivery :=
  ⟨rfl, fun _ _ _ _ => rfl, rfl⟩

theorem symm (h : ReadsAlike provider delivery other) : ReadsAlike provider other delivery :=
  ⟨h.body_eq.symm, fun dialect hd name hn => (h.header_eq dialect hd name hn).symm,
    h.secret_eq.symm⟩

theorem trans (h : ReadsAlike provider delivery other) (hr : ReadsAlike provider other third) :
    ReadsAlike provider delivery third :=
  ⟨h.body_eq.trans hr.body_eq,
    fun dialect hd name hn =>
      (h.header_eq dialect hd name hn).trans (hr.header_eq dialect hd name hn),
    h.secret_eq.trans hr.secret_eq⟩

/-- Of a delivery nothing else has a say in the result. -/
theorem parse_eq (h : ReadsAlike provider delivery other) {m : Type → Type} [Monad m]
    (resolve : Event → m (Except String String)) :
    parse provider delivery resolve = parse provider other resolve := by
  cases hd : provider.dialect? with
  | none => rw [parse_of_none resolve hd, parse_of_none resolve hd]
  | some dialect =>
    have hh := h.header_eq dialect hd
    have hdecode : dialect.decodeDelivery delivery = dialect.decodeDelivery other := by
      rw [Dialect.decodeDelivery, Dialect.decodeDelivery, hh _ List.mem_cons_self, h.body_eq]
    have hs : ∀ header ∈ dialect.signatures,
        delivery.header? header.name = other.header? header.name := fun header hm =>
      hh header.name (List.mem_cons_of_mem _ (List.mem_map_of_mem hm))
    exact parse_congr hd hdecode h.body_eq hs h.secret_eq resolve

end ReadsAlike

section Noise

variable {provider : Provider}

/-- A header that is read gives the same after an edit that says nothing new. -/
theorem HeaderNoise.valueUnder?_eq {headers others : List (String × String)}
    (h : HeaderNoise provider headers others) {dialect : Dialect}
    (hd : provider.dialect? = some dialect) {read : String} (hr : read ∈ dialect.headerNames) :
    valueUnder? (Delivery.sameName · read) headers =
      valueUnder? (Delivery.sameName · read) others := by
  cases h with
  | recase hn => exact valueUnder?_rename (Delivery.sameName_congr hn read)
  | @empty before after name =>
    have hn : NoneGiven [(name, "")] (Delivery.sameName · read = true) := by simp [NoneGiven]
    exact (valueUnder?_insert (.inl hn)).symm
  | swap hn =>
    refine valueUnder?_swap ?_
    rintro ⟨hf, hs⟩
    rw [Delivery.sameName_iff] at hf hs
    rw [Delivery.sameName_iff.2 (hf.trans hs.symm)] at hn
    cases hn
  | @ignored before after name value hn =>
    have hn : NoneGiven [(name, value)] (Delivery.sameName · read = true) := by
      simp [NoneGiven, hn dialect hd read hr]
    exact (valueUnder?_insert (.inl hn)).symm
  | @again before after name value hg =>
    obtain ⟨pair, hm, hs, hv⟩ := hg
    cases hn : Delivery.sameName name read with
    | false =>
      have hn : NoneGiven [(name, value)] (Delivery.sameName · read = true) := by
        simp [NoneGiven, hn]
      exact (valueUnder?_insert (.inl hn)).symm
    | true =>
      have hp : Delivery.sameName pair.1 read = true := (Delivery.sameName_congr hs read).trans hn
      exact (@valueUnder?_insert (Delivery.sameName · read) before [(name, value)] after
        (.inr ⟨pair, hm, hp, hv⟩)).symm

theorem QueryNoise.valueUnder?_eq {query other : Option String} (h : QueryNoise query other) :
    valueUnder? (· == secretParam) (Query.params (query.getD "")) =
      valueUnder? (· == secretParam) (Query.params (other.getD "")) := by
  cases h with
  | @idle before after piece hq hn =>
    rw [hq, Option.getD_some, Query.params_intercalate, Query.params_intercalate,
      List.flatMap_append, List.flatMap_append, List.flatMap_cons]
    refine (valueUnder?_insert (.inl ?_)).symm
    simpa [NoneGiven] using hn
  | @late before after piece value hq hs hv =>
    rw [hq, Option.getD_some, Query.params_intercalate, Query.params_intercalate,
      List.flatMap_append, List.flatMap_append, List.flatMap_cons]
    refine (valueUnder?_insert (.inr ⟨_, hs, ?_, hv⟩)).symm
    exact beq_self_eq_true secretParam

theorem Noise.readsAlike {delivery other : Delivery} (h : Noise provider delivery other) :
    ReadsAlike provider delivery other := by
  cases h with
  | headers h => exact ⟨rfl, fun dialect hd name hn => h.valueUnder?_eq hd hn, rfl⟩
  | query h =>
    refine ⟨rfl, fun _ _ _ _ => rfl, ?_⟩
    rw [Delivery.param?_eq, Delivery.param?_eq]
    exact h.valueUnder?_eq

theorem readsAlike_of_noise {delivery other : Delivery}
    (h : Relation.EqvGen (Noise provider) delivery other) : ReadsAlike provider delivery other := by
  induction h with
  | rel _ _ h => exact h.readsAlike
  | refl delivery => exact .refl provider delivery
  | symm _ _ _ ih => exact ih.symm
  | trans _ _ _ _ _ ih ihr => exact ih.trans ihr

/-- However much noise comes to a delivery or goes from it, the result is the same, with the same
calls of the resolver. -/
theorem parse_of_noise {delivery other : Delivery}
    (h : Relation.EqvGen (Noise provider) delivery other) {m : Type → Type} [Monad m]
    (resolve : Event → m (Except String String)) :
    parse provider delivery resolve = parse provider other resolve ∧
    ∀ calls, (parse provider delivery (noting resolve)).run calls =
      (parse provider other (noting resolve)).run calls := by
  have h := readsAlike_of_noise h
  refine ⟨h.parse_eq resolve, fun calls => ?_⟩
  rw [h.parse_eq (noting resolve)]

end Noise

/-- A delivery with other headers and another query. -/
def Delivery.resent (delivery : Delivery) (headers : List (String × String)) (query : String) :
    Delivery where
  headers := headers
  query := some query
  body := delivery.body
  body_le := delivery.body_le

theorem Delivery.resent_self {delivery : Delivery} {query : String}
    (h : delivery.query = some query) : delivery.resent delivery.headers query = delivery := by
  cases delivery
  cases h
  rfl

theorem noise_resent_headers {provider : Provider} (delivery : Delivery) (query : String)
    {headers others : List (String × String)} (h : HeaderNoise provider headers others) :
    Noise provider (delivery.resent headers query) (delivery.resent others query) :=
  .headers h

theorem noise_resent_query {provider : Provider} (delivery : Delivery)
    (headers : List (String × String)) {query other : String}
    (h : QueryNoise (some query) (some other)) :
    Noise provider (delivery.resent headers query) (delivery.resent headers other) :=
  .query h

def noisyHeaders : List (String × String) :=
  [("Via", "proxy"), ("X-GITEA-EVENT", "push"), ("X-Gitea-Signature", ""),
    ("x-gitea-signature", "k")]

/-- A push with a header in other letters, one more header and one more secret. -/
def noisyPush : Delivery := signedPush.resent noisyHeaders "secret=k&secret=j"

theorem signedPush_noise : Relation.EqvGen (Noise .gitea) signedPush noisyPush := by
  have hcase : HeaderNoise .gitea signedPush.headers [("X-GITEA-EVENT", "push"),
      ("X-Gitea-Signature", ""), ("x-gitea-signature", "k")] := by
    refine @HeaderNoise.recase _ [] _ "x-gitea-event" "X-GITEA-EVENT" "push" ?_
    rw [Delivery.sameName_eq]
    decide +kernel
  have hvia : HeaderNoise .gitea [("X-GITEA-EVENT", "push"), ("X-Gitea-Signature", ""),
      ("x-gitea-signature", "k")] noisyHeaders := by
    refine @HeaderNoise.ignored _ [] _ "Via" "proxy" fun dialect hd read hr => ?_
    cases hd
    rw [Delivery.sameName_eq]
    revert read
    decide +kernel
  have hlate : QueryNoise (some "secret=k") (some "secret=k&secret=j") :=
    @QueryNoise.late _ ["secret=k"] [] "secret=j" "k" (by decide +kernel) (by decide +kernel)
      (by decide)
  have h := noise_resent_headers signedPush "secret=k" hcase
  rw [Delivery.resent_self rfl] at h
  have hr := noise_resent_headers signedPush "secret=k" hvia
  have hq : Noise .gitea _ noisyPush := noise_resent_query signedPush noisyHeaders hlate
  exact .trans _ _ _ (.rel _ _ h) (.trans _ _ _ (.rel _ _ hr) (.rel _ _ hq))

theorem noisyPush_same :
    Relation.EqvGen (Noise .gitea) signedPush noisyPush ∧
    parse .gitea signedPush silent = parse .gitea noisyPush silent ∧
    (parse .gitea noisyPush (noting silent)).run [] =
      (.error (.noKey pushedEvent "down"), [pushedEvent]) := by
  have h := parse_of_noise signedPush_noise silent
  obtain ⟨verdict, -, hr⟩ := exists_verdict (unkeyed_eq_ok_iff.2 signedPush_decodes)
  have hs := hr Id silent []
  rw [h.2 []] at hs
  exact ⟨signedPush_noise, h.1, hs⟩

end WebhookRelay
