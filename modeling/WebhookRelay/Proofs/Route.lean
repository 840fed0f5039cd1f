import Mathlib.Data.List.Basic
import WebhookRelay.Proofs.Table
import WebhookRelay.Receiver

/-!
Which requests are for a provider: those that post to `api/webhooks/` and a name that is not empty,
with slashes anywhere between and around the parts.
-/

namespace WebhookRelay

namespace Text

theorem Percent.decode_ne_nil {bytes : List UInt8} (h : bytes ≠ []) : Percent.decode bytes ≠ [] := by
  fun_cases Percent.decode bytes with
  | case1 a b rest x y ha hb => simp
  | case2 a b rest hn => simp
  | case3 c rest hn => simp
  | case4 => exact absurd rfl h

theorem Utf8.encode_ne_nil {text : String} (h : text ≠ "") : Utf8.encode text ≠ [] := by
  intro he
  apply h
  rw [← Utf8.encode_inj, he]
  rfl

theorem Utf8.lossyChars_ne_nil (found : List Char) (bytes : List UInt8)
    (h : found ≠ [] ∨ bytes ≠ []) : Utf8.lossyChars found bytes ≠ [] := by
  fun_induction Utf8.lossyChars found bytes with
  | case1 found => simpa using h
  | case2 found b rest c hc ih => exact ih (.inl (List.cons_ne_nil _ _))
  | case3 found b rest hc ih => exact ih (.inl (List.cons_ne_nil _ _))

theorem Utf8.decodeLossy_ne_empty {bytes : List UInt8} (h : bytes ≠ []) :
    Utf8.decodeLossy bytes ≠ "" := by
  intro he
  have hl := congrArg String.toList he
  simp only [Utf8.decodeLossy, String.toList_ofList] at hl
  exact Utf8.lossyChars_ne_nil [] bytes (.inr h) hl

end Text

namespace Provider

/-- No name stands for two providers. -/
theorem mem_spellings_iff {name : String} {provider : Provider} :
    (name, provider) ∈ spellings ↔ ofName? name = some provider :=
  (lookup_eq_some_iff (by decide +kernel)).symm

theorem ofName?_eq_none_iff {name : String} :
    ofName? name = none ↔ ∀ provider, (name, provider) ∉ spellings := by
  rw [Option.eq_none_iff_forall_ne_some]
  exact forall_congr' fun provider => not_congr mem_spellings_iff.symm

end Provider

namespace Receiver

/-- The parts of a path between its slashes, of which empty ones do not count. -/
inductive PathParts : List Char → List (List Char) → Prop
  | done : PathParts [] []
  | slash {path : List Char} {parts : List (List Char)} (h : PathParts path parts) :
      PathParts ('/' :: path) parts
  | part {part path : List Char} {parts : List (List Char)} (hn : part ≠ []) (hs : '/' ∉ part)
      (hp : path = [] ∨ ∃ rest, path = '/' :: rest) (h : PathParts path parts) :
      PathParts (part ++ path) (part :: parts)

theorem PathParts.eq_filter {path : List Char} {parts : List (List Char)}
    (h : PathParts path parts) : (path.splitOn '/').filter (!·.isEmpty) = parts := by
  induction h with
  | done => rfl
  | slash h ih =>
    rw [List.splitOn_cons_eq_if_modifyHead, if_pos (by rfl)]
    simpa using ih
  | @part part path parts hn hs hp h ih =>
    have hf (rest : List (List Char)) :
        (part :: rest).filter (!·.isEmpty) = part :: rest.filter (!·.isEmpty) :=
      List.filter_cons_of_pos (by simpa using hn)
    rcases hp with rfl | ⟨rest, rfl⟩
    · rw [List.splitOn_nil] at ih
      rw [List.append_nil, List.splitOn_eq_singleton hs, hf, ← ih]
      rfl
    · rw [List.splitOn_cons_eq_if_modifyHead, if_pos (by rfl)] at ih
      rw [List.splitOn_append_cons_self_of_not_mem hs, hf, ← ih]
      rfl

theorem exists_pathParts (path : List Char) : ∃ parts, PathParts path parts := by
  induction path with
  | nil => exact ⟨[], .done⟩
  | cons c path ih =>
    obtain ⟨parts, h⟩ := ih
    by_cases hc : c = '/'
    · subst hc
      exact ⟨parts, .slash h⟩
    · have hs : '/' ∉ [c] := by simpa using Ne.symm hc
      cases h with
      | done => exact ⟨[[c]], .part (List.cons_ne_nil c []) hs (.inl rfl) .done⟩
      | slash h => exact ⟨[c] :: parts, .part (List.cons_ne_nil c []) hs (.inr ⟨_, rfl⟩) (.slash h)⟩
      | @part part path parts hn hp he h =>
        have hs : '/' ∉ c :: part := by
          rw [List.mem_cons, not_or]
          exact ⟨Ne.symm hc, hp⟩
        exact ⟨(c :: part) :: parts, .part (List.cons_ne_nil c part) hs he h⟩

theorem pathParts_iff {path : List Char} {parts : List (List Char)} :
    PathParts path parts ↔ (path.splitOn '/').filter (!·.isEmpty) = parts := by
  constructor
  · exact PathParts.eq_filter
  · rintro rfl
    obtain ⟨parts, h⟩ := exists_pathParts path
    rwa [h.eq_filter]

theorem PathParts.ne_nil {path : List Char} {parts : List (List Char)} (h : PathParts path parts)
    {part : List Char} (hp : part ∈ parts) : part ≠ [] := by
  rw [pathParts_iff] at h
  subst h
  simpa using (List.mem_filter.1 hp).2

/-- What a part of a path says once its percent-encoding is undone. -/
def plainPart (part : List Char) : String :=
  Text.Utf8.decodeLossy (Text.Percent.decode (Text.Utf8.encode (String.ofList part)))

theorem plainPart_ne_empty {part : List Char} (h : part ≠ []) : plainPart part ≠ "" := by
  have ht : String.ofList part ≠ "" := by
    intro he
    apply h
    rw [← String.toList_ofList (l := part), he]
    rfl
  exact Text.Utf8.decodeLossy_ne_empty (Text.Percent.decode_ne_nil (Text.Utf8.encode_ne_nil ht))

namespace Request

/-- The target up to its query. -/
def path (r : Request) : List Char := r.target.toList.takeWhile (· != '?')

/-- Whether a request posts to `api/webhooks/` and a name. -/
structure Names (r : Request) (name : String) : Prop where
  method_eq : r.method = "POST"
  path : ∃ api webhooks part, PathParts r.path [api, webhooks, part] ∧
    plainPart api = "api" ∧ plainPart webhooks = "webhooks" ∧ plainPart part = name

theorem Names.ne_empty {r : Request} {name : String} (h : r.Names name) : name ≠ "" := by
  obtain ⟨api, webhooks, part, hp, -, -, rfl⟩ := h.path
  exact plainPart_ne_empty (hp.ne_nil (by simp))

theorem segments_eq {r : Request} {parts : List (List Char)} (h : PathParts r.path parts) :
    r.segments = parts.map plainPart := by
  rw [← h.eq_filter]
  rfl

theorem route?_eq_some_iff {r : Request} {name : String} :
    r.route? = some name ↔ r.Names name := by
  constructor
  · intro h
    unfold route? at h
    split at h
    · next hs =>
      split at h
      · next hm =>
        obtain ⟨parts, hp⟩ := exists_pathParts r.path
        rw [segments_eq hp] at hs
        obtain ⟨api, parts, rfl, ha, hs⟩ := List.map_eq_cons_iff.1 hs
        obtain ⟨webhooks, parts, rfl, hw, hs⟩ := List.map_eq_cons_iff.1 hs
        obtain ⟨part, parts, rfl, hn, hs⟩ := List.map_eq_cons_iff.1 hs
        obtain rfl := List.map_eq_nil_iff.1 hs
        cases h
        exact ⟨hm, api, webhooks, part, hp, ha, hw, hn⟩
      · cases h
    · cases h
  · rintro ⟨hm, api, webhooks, part, hp, ha, hw, rfl⟩
    unfold route?
    rw [segments_eq hp]
    simp only [List.map_cons, List.map_nil, ha, hw, if_pos hm]

theorem route?_eq_none_iff {r : Request} : r.route? = none ↔ ∀ name, ¬ r.Names name := by
  rw [Option.eq_none_iff_forall_ne_some]
  exact forall_congr' fun name => not_congr route?_eq_some_iff

/-- Whether a request is for a provider and carries this delivery. -/
structure Carries (r : Request) (provider : Provider) (delivery : Delivery) : Prop where
  name : ∃ name, r.Names name ∧ (name, provider) ∈ Provider.spellings
  headers_eq : delivery.headers = r.headers
  query_eq : delivery.query = r.query?
  body_eq : delivery.body = r.body

theorem delivery_eq_ok_iff {r : Request} {delivery : Delivery} :
    r.delivery = .ok delivery ↔
      delivery.headers = r.headers ∧ delivery.query = r.query? ∧ delivery.body = r.body := by
  obtain ⟨headers, query, body, hb⟩ := delivery
  unfold Request.delivery Delivery.ofBody
  constructor
  · intro h
    split at h
    · cases h
      exact ⟨rfl, rfl, rfl⟩
    · cases h
  · rintro ⟨rfl, rfl, rfl⟩
    rw [dif_pos hb]
    rfl

theorem delivery_of_tooLarge {r : Request} (h : maxBody < r.body.length) :
    r.delivery = .error .tooLarge := by
  unfold Request.delivery Delivery.ofBody
  rw [dif_neg (Nat.not_le_of_lt h)]
  rfl

theorem carries_iff {r : Request} {provider : Provider} {delivery : Delivery} :
    r.Carries provider delivery ↔
      (∃ name, r.route? = some name ∧ Provider.ofName? name = some provider) ∧
        r.delivery = .ok delivery := by
  rw [delivery_eq_ok_iff]
  constructor
  · rintro ⟨⟨name, hn, hp⟩, hh, hq, hb⟩
    exact ⟨⟨name, route?_eq_some_iff.2 hn, Provider.mem_spellings_iff.1 hp⟩, hh, hq, hb⟩
  · rintro ⟨⟨name, hn, hp⟩, hh, hq, hb⟩
    exact ⟨⟨name, route?_eq_some_iff.1 hn, Provider.mem_spellings_iff.2 hp⟩, hh, hq, hb⟩

end Request

end Receiver

end WebhookRelay
