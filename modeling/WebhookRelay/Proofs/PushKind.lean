import WebhookRelay.Proofs.Noise
import WebhookRelay.Proofs.Push
import WebhookRelay.Proofs.UnknownEvent

/-!
What a push of GitLab is. Its two event names say nothing; two fields of its payload tell whether a
branch or a tag is pushed, and whether it is deleted.
-/

namespace WebhookRelay.GitLab

open Dialect

/-- Which name is that of a reference: without one directory of branches or tags at its start. -/
inductive ShortName : (ref : String) → (name : String) → Prop
  | branch {name : String} : ShortName ("refs/heads/" ++ name) name
  | tag {name : String} : ShortName ("refs/tags/" ++ name) name
  | whole {ref : String} (hb : ∀ name, ref ≠ "refs/heads/" ++ name)
      (ht : ∀ name, ref ≠ "refs/tags/" ++ name) : ShortName ref ref

/-- What is told of a push, by its kind and by what it pushes to. -/
inductive TellsKind (p : PushPayload) : Except DecodeError Subject → Prop
  | deletedBranch {name : String} (hk : p.kind = "push") (hz : p.after = zeroSha)
      (hn : ShortName p.ref name) :
      TellsKind p (.ok (.branch { name, sha := some p.before } .delete))
  | deletedTag {name : String} (hk : p.kind = "tag_push") (hz : p.after = zeroSha)
      (hn : ShortName p.ref name) :
      TellsKind p (.ok (.tag { name, sha := some p.before } .delete))
  | push {push : Push} (hk : p.kind = "push" ∨ p.kind = "tag_push") (hz : p.after ≠ zeroSha)
      (hr : push.ref = p.ref) (hb : push.before = p.before) (ha : push.after = p.after)
      (hc : push.compare = p.project.link ++ "/-/compare/" ++ p.before ++ "..." ++ p.after)
      (hm : (p.source p.sender).Makes push) : TellsKind p (.ok (.push push))
  | unknown (hk : p.kind ∉ ["push", "tag_push"]) : TellsKind p (.error (.unknownEvent p.kind))

/-- No reference stands in both directories. -/
theorem tag_ne_branch (name other : String) : "refs/tags/" ++ name ≠ "refs/heads/" ++ other := by
  intro h
  have hl := congrArg (fun s : String => s.toList[5]?) h
  simp [String.toList_append] at hl

theorem shortName_shortRef (ref : String) : ShortName ref (shortRef ref) := by
  unfold shortRef
  cases hb : Text.stripLead? "refs/heads/".toList ref.toList with
  | some rest =>
    obtain rfl := Text.stripLead?_toList_eq_some_iff.1 hb
    exact .branch
  | none =>
    have hb := Text.stripLead?_toList_eq_none_iff.1 hb
    cases ht : Text.stripLead? "refs/tags/".toList ref.toList with
    | some rest =>
      obtain rfl := Text.stripLead?_toList_eq_some_iff.1 ht
      exact .tag
    | none => exact .whole hb (Text.stripLead?_toList_eq_none_iff.1 ht)

theorem shortRef_eq_iff {ref name : String} : shortRef ref = name ↔ ShortName ref name := by
  constructor
  · rintro rfl
    exact shortName_shortRef ref
  · intro h
    unfold shortRef
    cases h with
    | branch =>
      rw [Text.stripLead?_toList_append]
      exact String.ofList_toList
    | tag =>
      rw [Text.stripLead?_toList_append,
        Text.stripLead?_toList_eq_none_iff.2 (tag_ne_branch name)]
      exact String.ofList_toList
    | whole hb ht =>
      rw [Text.stripLead?_toList_eq_none_iff.2 hb, Text.stripLead?_toList_eq_none_iff.2 ht]
      rfl

theorem existsUnique_shortName (ref : String) : ∃! name, ShortName ref name :=
  ⟨shortRef ref, shortName_shortRef ref, fun _ h => (shortRef_eq_iff.2 h).symm⟩

theorem PushPayload.exists_tellsKind (p : PushPayload) :
    ∃ result, TellsKind p result ∧ p.toEvent = result.map fun subject =>
      { subject, repo := p.project.toRepository, sender := p.sender } := by
  by_cases hk : p.kind ∈ ["push", "tag_push"]
  · have hk : p.kind = "push" ∨ p.kind = "tag_push" := by simpa using hk
    have hn := shortName_shortRef p.ref
    unfold PushPayload.toEvent
    cases hz : p.after == zeroSha with
    | true =>
      have hz := beq_iff_eq.1 hz
      rcases hk with hk | hk <;> rw [hk]
      · exact ⟨_, .deletedBranch hk hz hn, rfl⟩
      · exact ⟨_, .deletedTag hk hz hn, rfl⟩
    | false =>
      refine ⟨_, .push hk (beq_eq_false_iff_ne.1 hz) rfl rfl rfl rfl p.source_makes, ?_⟩
      rcases hk with hk | hk <;> rw [hk] <;> rfl
  · exact ⟨_, .unknown hk, toEvent_unknown_iff.2 ⟨rfl, hk⟩⟩

theorem decode_tagPush (body : List UInt8) :
    dialect.decode "Tag Push Hook" body = dialect.decode "Push Hook" body := by
  have hd : Provider.gitlab.dialect? = some dialect := rfl
  rw [decode_of_reading hd rfl, decode_of_reading hd rfl]

/-- A push is told by its kind and by what it pushes to, under either name, and every reference has
one short name. -/
theorem push_told_by_kind (body : List UInt8) :
    (∀ (delivery other : Delivery) {m : Type → Type} [Monad m]
      (resolve : Event → m (Except String String)), delivery.body = body → other.body = body →
      dialect.EventIs delivery "Push Hook" → dialect.EventIs other "Tag Push Hook" →
      (∀ header ∈ dialect.signatures,
        delivery.header? header.name = other.header? header.name) →
      delivery.param? secretParam = other.param? secretParam →
      parse .gitlab delivery resolve = parse .gitlab other resolve) ∧
    dialect.decode "Push Hook" body = dialect.decode "Tag Push Hook" body ∧
    (∀ p, PushPayload.shape.parse body = .ok p → ∃ result, TellsKind p result ∧
      dialect.decode "Push Hook" body =
        result.map (Subject.told p.project.toRepository p.sender)) ∧
    ∀ ref, ∃! name, ShortName ref name := by
  have hd : Provider.gitlab.dialect? = some dialect := rfl
  refine ⟨?_, (decode_tagPush body).symm, ?_, existsUnique_shortName⟩
  · intro delivery other m _ resolve hb ho he hf hs hq
    have hdecode : dialect.decodeDelivery delivery = dialect.decodeDelivery other := by
      rw [decodeDelivery_of_eventIs he, decodeDelivery_of_eventIs hf, hb, ho, decode_tagPush]
    exact parse_congr hd hdecode (hb.trans ho.symm) hs hq resolve
  · intro p hp
    obtain ⟨result, ht, he⟩ := p.exists_tellsKind
    exact ⟨result, ht, decode_told hd rfl hp he⟩

/-- A tag that was deleted, whose name looks like a branch. -/
def oddTag (event : String) : Delivery where
  headers := [("X-Gitlab-Event", event)]
  body :=
    ["\x7b\"object_kind\":\"tag_push\",\"before\":\"a\",",
      "\"after\":\"0000000000000000000000000000000000000000\",\"ref\":\"refs/tags/refs/heads/v\",",
      "\"user_username\":\"u\",\"project\":\x7b\"id\":1,\"path_with_namespace\":\"g/p\"",
      "\x7d\x7d"].flatMap Text.Utf8.encode
  body_le := by decide +kernel

theorem oddTag_eventIs {event : String} (he : event ≠ "") :
    dialect.EventIs (oddTag event) event := by
  have hn : Delivery.sameName "X-Gitlab-Event" dialect.eventHeader = true := by decide +kernel
  exact .inl ⟨[], _, [], rfl, hn, he, nofun⟩

theorem oddTag_decodes :
    dialect.decode "Push Hook" (oddTag "Push Hook").body =
      .ok { event :=
        { subject := .tag { name := "refs/heads/v", sha := some "a" } .delete
          repo := { id := "1", owner := "g", name := "p", isPrivate := true }
          sender := { login := "u" } } } := by
  apply Payload.toOption_eq_some_iff.1
  decide +kernel

theorem oddTag_told :
    (∃ p, PushPayload.shape.parse (oddTag "Push Hook").body = .ok p ∧
      ∃ result, TellsKind p result ∧ dialect.decode "Push Hook" (oddTag "Push Hook").body =
        result.map (Subject.told p.project.toRepository p.sender)) ∧
    ∀ resolve : Event → Id (Except String String),
      parse .gitlab (oddTag "Push Hook") resolve =
        parse .gitlab (oddTag "Tag Push Hook") resolve := by
  obtain ⟨hparse, -, htold, -⟩ := push_told_by_kind (oddTag "Push Hook").body
  have hd : Provider.gitlab.dialect? = some dialect := rfl
  have hrun := oddTag_decodes
  rw [decode_of_reading hd rfl] at hrun
  obtain ⟨p, hp, -⟩ := Reading.run_perhaps_eq_ok hrun
  refine ⟨⟨p, hp, htold p hp⟩, fun resolve => ?_⟩
  have hs : ∀ header ∈ dialect.signatures,
      (oddTag "Push Hook").header? header.name = (oddTag "Tag Push Hook").header? header.name := by
    decide +kernel
  exact hparse _ _ resolve rfl rfl (oddTag_eventIs (by decide)) (oddTag_eventIs (by decide)) hs rfl

end WebhookRelay.GitLab
