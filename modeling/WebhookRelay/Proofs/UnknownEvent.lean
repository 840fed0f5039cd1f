import WebhookRelay.Proofs.Decoding

/-!
Which deliveries are of an unknown event: those whose name no table holds, whatever their bodies,
and those whose bodies are sound payloads of a known event but of a kind that is not handled.
-/

namespace WebhookRelay

/-- Whether the header of a delivery names this event. Without a value the name is empty. -/
def Dialect.EventIs (dialect : Dialect) (delivery : Delivery) (event : String) : Prop :=
  FirstGiven delivery.headers (Delivery.sameName · dialect.eventHeader = true) event ∨
    NoneGiven delivery.headers (Delivery.sameName · dialect.eventHeader = true) ∧ event = ""

/-- Whether the body of a known event is a payload of a kind that is not handled. -/
inductive UnknownKind : Provider → (event : String) → (body : List UInt8) → (kind : String) → Prop
  | gitHubRef {event : String} {body : List UInt8} {p : GitHub.RefPayload}
      (he : event = "create" ∨ event = "delete") (hp : GitHub.RefPayload.shape.parse body = .ok p)
      (hk : p.refType ∉ ["branch", "tag"]) : UnknownKind .github event body p.refType
  | giteaRef {provider : Provider} {event : String} {body : List UInt8} {p : Gitea.RefPayload}
      (hv : provider = .gitea ∨ provider = .gogs) (he : event = "create" ∨ event = "delete")
      (hp : Gitea.RefPayload.shape.parse body = .ok p) (hk : p.refType ∉ ["branch", "tag"]) :
      UnknownKind provider event body p.refType
  | gitLabPush {event : String} {body : List UInt8} {p : GitLab.PushPayload}
      (he : event = "Push Hook" ∨ event = "Tag Push Hook")
      (hp : GitLab.PushPayload.shape.parse body = .ok p) (hk : p.kind ∉ ["push", "tag_push"]) :
      UnknownKind .gitlab event body p.kind
  | gitLabNote {body : List UInt8} {p : GitLab.NotePayload}
      (hp : GitLab.NotePayload.shape.parse body = .ok p)
      (hk : p.note.target ∉ ["Issue", "MergeRequest"]) :
      UnknownKind .gitlab "Note Hook" body p.note.target
  | bitbucketOld {body : List UInt8} {p : Bitbucket.PushPayload} {change : Bitbucket.Change}
      {rest : List Bitbucket.Change} {old : Bitbucket.RefState}
      (hp : Bitbucket.PushPayload.shape.parse body = .ok p) (hc : p.push.changes = change :: rest)
      (hx : change.closed = true) (ho : change.old = some old)
      (hk : old.type ∉ ["branch", "tag"]) : UnknownKind .bitbucket "repo:push" body old.type
  | bitbucketNew {body : List UInt8} {p : Bitbucket.PushPayload} {change : Bitbucket.Change}
      {rest : List Bitbucket.Change} {new : Bitbucket.RefState}
      (hp : Bitbucket.PushPayload.shape.parse body = .ok p) (hc : p.push.changes = change :: rest)
      (hx : change.closed = false) (hn : change.new = some new)
      (hk : new.type ∉ ["branch", "tag"]) : UnknownKind .bitbucket "repo:push" body new.type
  | stashChange {body : List UInt8} {p : Stash.RefsPayload} {change : Stash.Change}
      {rest : List Stash.Change} (hp : Stash.RefsPayload.shape.parse body = .ok p)
      (hc : p.changes = change :: rest) (hk : change.type ∉ ["ADD", "UPDATE", "DELETE"]) :
      UnknownKind .stash "repo:refs_changed" body change.type
  | stashRef {body : List UInt8} {p : Stash.RefsPayload} {change : Stash.Change}
      {rest : List Stash.Change} (hp : Stash.RefsPayload.shape.parse body = .ok p)
      (hc : p.changes = change :: rest) (ht : change.type ∈ ["ADD", "UPDATE", "DELETE"])
      (hk : change.ref.type ∉ ["TAG", "BRANCH"]) :
      UnknownKind .stash "repo:refs_changed" body change.ref.type

section Kinds

variable {α : Type} {result : Except DecodeError α} {kind found : String} {known : List String}

/-- Where the kind that is found is handled, the result blames no kind. -/
theorem unknown_iff_of_mem (hf : found ∈ known) (hr : ∀ kind, result ≠ .error (.unknownEvent kind)) :
    result = .error (.unknownEvent kind) ↔ found = kind ∧ kind ∉ known := by
  constructor
  · intro h
    exact absurd h (hr kind)
  · rintro ⟨rfl, hk⟩
    exact absurd hf hk

theorem ok_unknown_iff {a : α} (hf : found ∈ known) :
    (.ok a : Except DecodeError α) = .error (.unknownEvent kind) ↔ found = kind ∧ kind ∉ known :=
  unknown_iff_of_mem hf fun _ => nofun

theorem unknown_iff_of_not_mem (hf : found ∉ known) :
    (.error (.unknownEvent found) : Except DecodeError α) = .error (.unknownEvent kind) ↔
      found = kind ∧ kind ∉ known := by
  constructor
  · intro h
    cases h
    exact ⟨rfl, hf⟩
  · rintro ⟨rfl, -⟩
    rfl

theorem bind_unknown_iff {β : Type} {x : Except DecodeError α} {f : α → Except DecodeError β}
    (hf : ∀ a kind, f a ≠ .error (.unknownEvent kind)) :
    x >>= f = .error (.unknownEvent kind) ↔ x = .error (.unknownEvent kind) := by
  cases x with
  | error cause =>
    constructor <;> intro h <;> cases h <;> rfl
  | ok a =>
    constructor
    · intro h
      exact absurd h (hf a kind)
    · intro h
      cases h

/-- Where the first of some changes is told, that one decides. -/
theorem first_unknown_iff {β γ : Type} {changes : List β} {tell : β → Except DecodeError γ}
    (hn : changes = [] → ∀ kind, result ≠ .error (.unknownEvent kind))
    (hc : ∀ change rest, changes = change :: rest →
      (result = .error (.unknownEvent kind) ↔ tell change = .error (.unknownEvent kind))) :
    result = .error (.unknownEvent kind) ↔
      ∃ change rest, changes = change :: rest ∧ tell change = .error (.unknownEvent kind) := by
  cases changes with
  | nil =>
    refine iff_of_false (hn rfl kind) ?_
    rintro ⟨change, rest, hs, -⟩
    cases hs
  | cons change rest =>
    rw [hc change rest rfl]
    constructor
    · intro h
      exact ⟨change, rest, rfl, h⟩
    · rintro ⟨other, others, hs, h⟩
      cases hs
      exact h

end Kinds

theorem GitHub.RefPayload.toEvent_unknown_iff {p : GitHub.RefPayload} {action : Action}
    {kind : String} :
    p.toEvent action = .error (.unknownEvent kind) ↔
      p.refType = kind ∧ kind ∉ ["branch", "tag"] := by
  unfold GitHub.RefPayload.toEvent
  split
  · next hb => exact ok_unknown_iff (by simp [hb])
  · next ht => exact ok_unknown_iff (by simp [ht])
  · next hb ht =>
    have hf : p.refType ∉ ["branch", "tag"] := by simpa using ⟨hb, ht⟩
    exact unknown_iff_of_not_mem hf

theorem Gitea.RefPayload.toEvent_unknown_iff {p : Gitea.RefPayload} {action : Action}
    {kind : String} :
    p.toEvent action = .error (.unknownEvent kind) ↔
      p.refType = kind ∧ kind ∉ ["branch", "tag"] := by
  unfold Gitea.RefPayload.toEvent
  split
  · next ht => exact ok_unknown_iff (by simp [ht])
  · next hb => exact ok_unknown_iff (by simp [hb])
  · next ht hb =>
    have hf : p.refType ∉ ["branch", "tag"] := by simpa using ⟨hb, ht⟩
    exact unknown_iff_of_not_mem hf

theorem GitLab.PushPayload.toEvent_unknown_iff {p : GitLab.PushPayload} {kind : String} :
    p.toEvent = .error (.unknownEvent kind) ↔ p.kind = kind ∧ kind ∉ ["push", "tag_push"] := by
  unfold GitLab.PushPayload.toEvent
  split
  · next hk _ => exact ok_unknown_iff (by simp [hk])
  · next hk _ => exact ok_unknown_iff (by simp [hk])
  · next hk _ => exact ok_unknown_iff (by simp [hk])
  · next hk _ => exact ok_unknown_iff (by simp [hk])
  · next hp ht hq hu =>
    have hf : p.kind ∉ ["push", "tag_push"] := by
      -- The kinds are matched together with whether the reference is gone, so both answers count.
      cases hz : p.after == GitLab.zeroSha with
      | true => simpa using ⟨fun h => hp h hz, fun h => ht h hz⟩
      | false => simpa using ⟨fun h => hq h hz, fun h => hu h hz⟩
    exact unknown_iff_of_not_mem hf

theorem GitLab.NotePayload.toEvent_unknown_iff {p : GitLab.NotePayload} {kind : String} :
    p.toEvent = .error (.unknownEvent kind) ↔
      p.note.target = kind ∧ kind ∉ ["Issue", "MergeRequest"] := by
  unfold GitLab.NotePayload.toEvent
  split
  · next hi =>
    refine unknown_iff_of_mem (by simp [hi]) ?_
    intro kind h
    cases hp : p.issue <;> rw [hp] at h <;> cases h
  · next hm =>
    refine unknown_iff_of_mem (by simp [hm]) ?_
    intro kind h
    cases hp : p.mergeRequest <;> rw [hp] at h <;> cases h
  · next hi hm =>
    have hf : p.note.target ∉ ["Issue", "MergeRequest"] := by simpa using ⟨hi, hm⟩
    exact unknown_iff_of_not_mem hf

theorem Bitbucket.Change.subject_unknown_iff {change : Bitbucket.Change} {sender : User}
    {kind : String} :
    change.subject sender = .error (.unknownEvent kind) ↔
      ∃ state, (if change.closed then change.old else change.new) = some state ∧
        state.type = kind ∧ kind ∉ ["branch", "tag"] := by
  unfold Bitbucket.Change.subject
  split
  · split
    · next ho =>
      refine iff_of_false (fun h => by cases h) ?_
      rintro ⟨state, hs, -⟩
      cases ho.symm.trans hs
    · next old ho =>
      simp only [ho, Option.some.injEq, exists_eq_left']
      split
      · next hb => exact ok_unknown_iff (by simp [hb])
      · next ht => exact ok_unknown_iff (by simp [ht])
      · next hb ht =>
        have hf : old.type ∉ ["branch", "tag"] := by simpa using ⟨hb, ht⟩
        exact unknown_iff_of_not_mem hf
  · split
    · next hn =>
      refine iff_of_false (fun h => by cases h) ?_
      rintro ⟨state, hs, -⟩
      cases hn.symm.trans hs
    · next new hn =>
      simp only [hn, Option.some.injEq, exists_eq_left']
      split
      · next ht => exact ok_unknown_iff (by simp [ht])
      · next hb => exact ok_unknown_iff (by simp [hb])
      · next ht hb =>
        have hf : new.type ∉ ["branch", "tag"] := by simpa using ⟨hb, ht⟩
        exact unknown_iff_of_not_mem hf

theorem Bitbucket.PushPayload.toEvent_unknown_iff {p : Bitbucket.PushPayload} {kind : String} :
    p.toEvent = .error (.unknownEvent kind) ↔
      ∃ change rest, p.push.changes = change :: rest ∧
        change.subject p.actor.toUser = .error (.unknownEvent kind) := by
  unfold Bitbucket.PushPayload.toEvent
  refine first_unknown_iff (fun hc kind h => ?_) (fun change rest hc => ?_)
  · rw [hc] at h
    cases h
  · rw [hc]
    exact bind_unknown_iff (by intro subject kind h; cases h)

theorem Stash.changeTypes_eq_none_iff {type : String} :
    Stash.changeTypes.lookup type = none ↔ type ∉ ["ADD", "UPDATE", "DELETE"] :=
  lookup_eq_none_iff Stash.changeTypes type

theorem Stash.Change.subject_unknown_iff {change : Stash.Change} {repo : Stash.Repo} {sender : User}
    {kind : String} :
    change.subject repo sender = .error (.unknownEvent kind) ↔
      (change.type = kind ∧ kind ∉ ["ADD", "UPDATE", "DELETE"]) ∨
      (change.type ∈ ["ADD", "UPDATE", "DELETE"] ∧ change.ref.type = kind ∧
        kind ∉ ["TAG", "BRANCH"]) := by
  unfold Stash.Change.subject
  split
  · next hl =>
    have hf := Stash.changeTypes_eq_none_iff.1 hl
    rw [unknown_iff_of_not_mem hf]
    exact ⟨.inl, fun h => h.resolve_right fun h => hf h.1⟩
  · next action hl =>
    have hm : change.type ∈ ["ADD", "UPDATE", "DELETE"] := by
      refine Classical.byContradiction fun hf => ?_
      cases hl.symm.trans (Stash.changeTypes_eq_none_iff.2 hf)
    have hr : (change.type = kind ∧ kind ∉ ["ADD", "UPDATE", "DELETE"]) ∨
        (change.type ∈ ["ADD", "UPDATE", "DELETE"] ∧ change.ref.type = kind ∧
          kind ∉ ["TAG", "BRANCH"]) ↔ change.ref.type = kind ∧ kind ∉ ["TAG", "BRANCH"] := by
      constructor
      · rintro (⟨rfl, hf⟩ | ⟨-, h⟩)
        · exact absurd hm hf
        · exact h
      · exact fun h => .inr ⟨hm, h⟩
    rw [hr]
    split
    · next ht => exact ok_unknown_iff (by simp [ht])
    · next hb => exact ok_unknown_iff (by simp [hb])
    · next ht hb =>
      have hf : change.ref.type ∉ ["TAG", "BRANCH"] := by simpa using ⟨ht, hb⟩
      exact unknown_iff_of_not_mem hf

theorem Stash.RefsPayload.toEvent_unknown_iff {p : Stash.RefsPayload} {kind : String} :
    p.toEvent = .error (.unknownEvent kind) ↔
      ∃ change rest, p.changes = change :: rest ∧
        change.subject p.repo p.actor.toUser = .error (.unknownEvent kind) := by
  unfold Stash.RefsPayload.toEvent
  refine first_unknown_iff (fun hc kind h => ?_) (fun change rest hc => ?_)
  · rw [hc] at h
    cases h
  · rw [hc]
    exact bind_unknown_iff (by intro subject kind h; cases h)

namespace Reading

theorem run_always_ne_unknown {α : Type} (shape : Payload.Shape α) (toEvent : α → Event)
    (body : List UInt8) (kind : String) :
    (always shape toEvent).run body ≠ .error (.unknownEvent kind) := by
  intro h
  obtain ⟨payload, -, hc⟩ := run_eq_unknownEvent_iff.1 h
  cases convert_perhaps_eq_error_iff.1 hc

theorem run_perhaps_unknown_iff {α : Type} {shape : Payload.Shape α}
    {toEvent : α → Except DecodeError Event} {body : List UInt8} {kind : String} :
    (perhaps shape toEvent).run body = .error (.unknownEvent kind) ↔
      ∃ payload, shape.parse body = .ok payload ∧
        toEvent payload = .error (.unknownEvent kind) := by
  rw [run_eq_unknownEvent_iff]
  exact exists_congr fun payload => and_congr_right fun _ => convert_perhaps_eq_error_iff

end Reading

section Readings

variable {event : String} {body : List UInt8} {kind : String}

theorem GitHub.unknownKind_of_run {topic : GitHub.Topic} (ht : (event, topic) ∈ GitHub.topics)
    (h : (GitHub.reading topic).run body = .error (.unknownEvent kind)) :
    UnknownKind .github event body kind := by
  cases topic with
  | create | delete =>
    have he : event = "create" ∨ event = "delete" := by simp_all [GitHub.topics]
    obtain ⟨p, hp, hc⟩ := Reading.run_perhaps_unknown_iff.1 h
    obtain ⟨rfl, hk⟩ := GitHub.RefPayload.toEvent_unknown_iff.1 hc
    exact .gitHubRef he hp hk
  | _ => exact absurd h (Reading.run_always_ne_unknown _ _ body kind)

theorem GitLab.unknownKind_of_run {topic : GitLab.Topic} (ht : (event, topic) ∈ GitLab.topics)
    (h : (GitLab.reading topic).run body = .error (.unknownEvent kind)) :
    UnknownKind .gitlab event body kind := by
  cases topic with
  | push =>
    have he : event = "Push Hook" ∨ event = "Tag Push Hook" := by simp_all [GitLab.topics]
    obtain ⟨p, hp, hc⟩ := Reading.run_perhaps_unknown_iff.1 h
    obtain ⟨rfl, hk⟩ := GitLab.PushPayload.toEvent_unknown_iff.1 hc
    exact .gitLabPush he hp hk
  | note =>
    obtain rfl : event = "Note Hook" := by simp_all [GitLab.topics]
    obtain ⟨p, hp, hc⟩ := Reading.run_perhaps_unknown_iff.1 h
    obtain ⟨rfl, hk⟩ := GitLab.NotePayload.toEvent_unknown_iff.1 hc
    exact .gitLabNote hp hk
  | _ => exact absurd h (Reading.run_always_ne_unknown _ _ body kind)

theorem Gitea.unknownKind_of_run {provider : Provider} {topic : Gitea.Topic}
    (hv : provider = .gitea ∨ provider = .gogs)
    (ht : topic = .create ∨ topic = .delete → event = "create" ∨ event = "delete")
    (h : (Gitea.reading topic).run body = .error (.unknownEvent kind)) :
    UnknownKind provider event body kind := by
  cases topic with
  | push =>
    obtain ⟨p, -, hc⟩ := Reading.run_eq_unknownEvent_iff.1 h
    cases hc
  | create | delete =>
    have he : event = "create" ∨ event = "delete" := ht (by simp)
    obtain ⟨p, hp, hc⟩ := Reading.run_perhaps_unknown_iff.1 h
    obtain ⟨rfl, hk⟩ := Gitea.RefPayload.toEvent_unknown_iff.1 hc
    exact .giteaRef hv he hp hk
  | _ => exact absurd h (Reading.run_always_ne_unknown _ _ body kind)

theorem Bitbucket.unknownKind_of_run {topic : Bitbucket.Topic}
    (ht : (event, topic) ∈ Bitbucket.topics)
    (h : (Bitbucket.reading topic).run body = .error (.unknownEvent kind)) :
    UnknownKind .bitbucket event body kind := by
  cases topic with
  | push =>
    obtain rfl : event = "repo:push" := by simp_all [Bitbucket.topics]
    obtain ⟨p, hp, hc⟩ := Reading.run_perhaps_unknown_iff.1 h
    obtain ⟨change, rest, hl, hs⟩ := Bitbucket.PushPayload.toEvent_unknown_iff.1 hc
    obtain ⟨state, ho, rfl, hk⟩ := Bitbucket.Change.subject_unknown_iff.1 hs
    cases hx : change.closed with
    | true =>
      rw [hx, if_pos rfl] at ho
      exact .bitbucketOld hp hl hx ho hk
    | false =>
      rw [hx, if_neg Bool.false_ne_true] at ho
      exact .bitbucketNew hp hl hx ho hk
  | _ => exact absurd h (Reading.run_always_ne_unknown _ _ body kind)

theorem Stash.unknownKind_of_run {topic : Stash.Topic} (ht : (event, topic) ∈ Stash.topics)
    (h : (Stash.reading topic).run body = .error (.unknownEvent kind)) :
    UnknownKind .stash event body kind := by
  cases topic with
  | refs =>
    obtain rfl : event = "repo:refs_changed" := by simp_all [Stash.topics]
    obtain ⟨p, hp, hc⟩ := Reading.run_perhaps_unknown_iff.1 h
    obtain ⟨change, rest, hl, hs⟩ := Stash.RefsPayload.toEvent_unknown_iff.1 hc
    rcases Stash.Change.subject_unknown_iff.1 hs with ⟨rfl, hk⟩ | ⟨ht, rfl, hk⟩
    · exact .stashChange hp hl hk
    · exact .stashRef hp hl ht hk
  | _ => exact absurd h (Reading.run_always_ne_unknown _ _ body kind)

theorem unknownKind_of_run {provider : Provider} {reading : Reading}
    (hr : provider.reading? event = some reading)
    (h : reading.run body = .error (.unknownEvent kind)) :
    UnknownKind provider event body kind := by
  cases handled_of_reading? hr with
  | gitHub ht => exact GitHub.unknownKind_of_run ht h
  | gitLab ht => exact GitLab.unknownKind_of_run ht h
  | gitea ht =>
    refine Gitea.unknownKind_of_run (by simp) ?_ h
    rintro (rfl | rfl) <;> simp_all [Gitea.topics]
  | gogs ht =>
    refine Gitea.unknownKind_of_run (by simp) ?_ h
    rintro (rfl | rfl) <;> simp_all [Gogs.sharedTopics]
  | gogsPull => exact absurd h (Reading.run_always_ne_unknown _ _ body kind)
  | bitbucket ht => exact Bitbucket.unknownKind_of_run ht h
  | stash ht => exact Stash.unknownKind_of_run ht h

theorem run_of_unknownKind {provider : Provider} (h : UnknownKind provider event body kind) :
    ∃ reading, provider.reading? event = some reading ∧
      reading.run body = .error (.unknownEvent kind) := by
  cases h with
  | gitHubRef he hp hk =>
    rcases he with rfl | rfl
    · refine ⟨GitHub.reading .create, rfl, Reading.run_perhaps_unknown_iff.2 ⟨_, hp, ?_⟩⟩
      exact GitHub.RefPayload.toEvent_unknown_iff.2 ⟨rfl, hk⟩
    · refine ⟨GitHub.reading .delete, rfl, Reading.run_perhaps_unknown_iff.2 ⟨_, hp, ?_⟩⟩
      exact GitHub.RefPayload.toEvent_unknown_iff.2 ⟨rfl, hk⟩
  | @giteaRef _ _ _ p hv he hp hk =>
    have hc (action : Action) : p.toEvent action = .error (.unknownEvent p.refType) :=
      Gitea.RefPayload.toEvent_unknown_iff.2 ⟨rfl, hk⟩
    have hcreate : (Gitea.reading .create).run body = .error (.unknownEvent p.refType) :=
      Reading.run_perhaps_unknown_iff.2 ⟨p, hp, hc .create⟩
    have hdelete : (Gitea.reading .delete).run body = .error (.unknownEvent p.refType) :=
      Reading.run_perhaps_unknown_iff.2 ⟨p, hp, hc .delete⟩
    rcases hv with rfl | rfl <;> rcases he with rfl | rfl
    · exact ⟨Gitea.reading .create, rfl, hcreate⟩
    · exact ⟨Gitea.reading .delete, rfl, hdelete⟩
    · exact ⟨Gitea.reading .create, rfl, hcreate⟩
    · exact ⟨Gitea.reading .delete, rfl, hdelete⟩
  | @gitLabPush _ _ p he hp hk =>
    have hrun : (GitLab.reading .push).run body = .error (.unknownEvent p.kind) :=
      Reading.run_perhaps_unknown_iff.2 ⟨p, hp, GitLab.PushPayload.toEvent_unknown_iff.2 ⟨rfl, hk⟩⟩
    rcases he with rfl | rfl
    · exact ⟨GitLab.reading .push, rfl, hrun⟩
    · exact ⟨GitLab.reading .push, rfl, hrun⟩
  | gitLabNote hp hk =>
    refine ⟨GitLab.reading .note, rfl, Reading.run_perhaps_unknown_iff.2 ⟨_, hp, ?_⟩⟩
    exact GitLab.NotePayload.toEvent_unknown_iff.2 ⟨rfl, hk⟩
  | bitbucketOld hp hl hx ho hk =>
    refine ⟨Bitbucket.reading .push, rfl, Reading.run_perhaps_unknown_iff.2 ⟨_, hp, ?_⟩⟩
    refine Bitbucket.PushPayload.toEvent_unknown_iff.2 ⟨_, _, hl, ?_⟩
    exact Bitbucket.Change.subject_unknown_iff.2 ⟨_, by rw [hx, if_pos rfl, ho], rfl, hk⟩
  | bitbucketNew hp hl hx hn hk =>
    refine ⟨Bitbucket.reading .push, rfl, Reading.run_perhaps_unknown_iff.2 ⟨_, hp, ?_⟩⟩
    refine Bitbucket.PushPayload.toEvent_unknown_iff.2 ⟨_, _, hl, ?_⟩
    exact Bitbucket.Change.subject_unknown_iff.2
      ⟨_, by rw [hx, if_neg Bool.false_ne_true, hn], rfl, hk⟩
  | stashChange hp hl hk =>
    refine ⟨Stash.reading .refs, rfl, Reading.run_perhaps_unknown_iff.2 ⟨_, hp, ?_⟩⟩
    refine Stash.RefsPayload.toEvent_unknown_iff.2 ⟨_, _, hl, ?_⟩
    exact Stash.Change.subject_unknown_iff.2 (.inl ⟨rfl, hk⟩)
  | stashRef hp hl ht hk =>
    refine ⟨Stash.reading .refs, rfl, Reading.run_perhaps_unknown_iff.2 ⟨_, hp, ?_⟩⟩
    refine Stash.RefsPayload.toEvent_unknown_iff.2 ⟨_, _, hl, ?_⟩
    exact Stash.Change.subject_unknown_iff.2 (.inr ⟨ht, rfl, hk⟩)

theorem decode_unknown_iff {provider : Provider} {dialect : Dialect}
    (hd : provider.dialect? = some dialect) (he : event ∈ provider.eventNames) :
    dialect.decode event body = .error (.unknownEvent kind) ↔
      UnknownKind provider event body kind := by
  cases hr : provider.reading? event with
  | none => exact absurd he (Provider.reading?_eq_none_iff.1 hr)
  | some reading =>
    rw [decode_of_reading hd hr]
    constructor
    · exact unknownKind_of_run hr
    · intro h
      obtain ⟨other, ho, h⟩ := run_of_unknownKind h
      cases hr.symm.trans ho
      exact h

end Readings

section Delivery

variable {provider : Provider} {dialect : Dialect} {delivery : Delivery} {event : String}

theorem decodeDelivery_of_eventIs (he : dialect.EventIs delivery event) :
    dialect.decodeDelivery delivery = dialect.decode event delivery.body := by
  rcases he with hf | ⟨hn, rfl⟩
  · exact decodeDelivery_of_header (Delivery.header?_eq_some_iff.2 hf)
  · rw [Dialect.decodeDelivery, Delivery.header?_eq_none_iff.2 hn, Option.getD_none]

/-- A delivery fails as undecoded exactly if its decoding fails so, and no resolver is asked. -/
theorem run_parse_undecoded_iff {σ : Type} (hd : provider.dialect? = some dialect)
    (resolve : Event → StateM σ (Except String String)) (s : σ) (cause : DecodeError) :
    (parse provider delivery resolve).run s = (.error (.undecoded cause), s) ↔
      dialect.decodeDelivery delivery = .error cause := by
  cases hc : dialect.decodeDelivery delivery with
  | error other =>
    rw [parse_of_undecoded resolve hd hc]
    constructor
    · intro h
      cases h
      rfl
    · intro h
      cases h
      rfl
  | ok decoded =>
    rw [parse_of_decoded resolve hd hc]
    refine iff_of_false (fun h => ?_) (fun h => by cases h)
    have hj : dialect.judge delivery decoded ((resolve decoded.event).run s).1 =
        .error (.undecoded cause) := congrArg Prod.fst h
    have hcarried := carried?_judge dialect delivery decoded ((resolve decoded.event).run s).1
    rw [hj] at hcarried
    cases hcarried

/-- A delivery whose event has a name that no table holds is of an unknown event, whatever its body.
Any other is so exactly if its whole body is a payload of the event, of a kind that is not handled,
and the kind is what is told. -/
theorem unknown_event_told {σ : Type} (hd : provider.dialect? = some dialect)
    (he : dialect.EventIs delivery event) (resolve : Event → StateM σ (Except String String))
    (s : σ) :
    (event ∉ provider.eventNames →
      (parse provider delivery resolve).run s = (.error (.undecoded (.unknownEvent event)), s)) ∧
    (event ∈ provider.eventNames → ∀ kind,
      ((parse provider delivery resolve).run s = (.error (.undecoded (.unknownEvent kind)), s) ↔
        UnknownKind provider event delivery.body kind)) := by
  constructor
  · intro hn
    rw [run_parse_undecoded_iff hd, decodeDelivery_of_eventIs he]
    exact decode_of_unknown hd hn delivery.body
  · intro hm kind
    rw [run_parse_undecoded_iff hd, decodeDelivery_of_eventIs he]
    exact decode_unknown_iff hd hm

end Delivery

/-- A note on a commit. -/
def commitNote : Delivery where
  headers := [("x-gitlab-event", ""), ("x-gitlab-event", "Note Hook")]
  body := Text.Utf8.encode <|
    "\x7b\"user\":\x7b\"username\":\"u\"\x7d," ++
    "\"project\":\x7b\"id\":1,\"path_with_namespace\":\"o/n\"\x7d," ++
    "\"object_attributes\":\x7b\"id\":1,\"note\":\"\",\"noteable_type\":\"Commit\"\x7d\x7d"
  body_le := by decide +kernel

theorem commitNote_eventIs : GitLab.dialect.EventIs commitNote "Note Hook" := by
  refine .inl (Delivery.header?_eq_some_iff.1 ?_)
  simp only [Delivery.header?, Delivery.sameName_eq]
  decide +kernel

theorem commitNote_unknownKind : UnknownKind .gitlab "Note Hook" commitNote.body "Commit" := by
  have ht : (GitLab.NotePayload.shape.parse commitNote.body).toOption.map (·.note.target) =
      some "Commit" := by decide +kernel
  obtain ⟨p, hp, ht⟩ := Option.map_eq_some_iff.1 ht
  rw [← ht]
  refine .gitLabNote (Payload.toOption_eq_some_iff.1 hp) ?_
  rw [ht]
  decide

/-- What is no text at all, as an event without a name. -/
def namelessNoise : Delivery where
  headers := [("X-Event-Key", "")]
  body := [0x7b, 0xff]

theorem namelessNoise_eventIs : Stash.dialect.EventIs namelessNoise "" := by
  refine .inr ⟨Delivery.header?_eq_none_iff.1 ?_, rfl⟩
  simp only [Delivery.header?, Delivery.sameName_eq]
  decide +kernel

theorem commitNote_unknown :
    GitLab.dialect.EventIs commitNote "Note Hook" ∧
    (parse .gitlab commitNote singleKey).run () =
      (.error (.undecoded (.unknownEvent "Commit")), ()) ∧
    Stash.dialect.EventIs namelessNoise "" ∧
    (parse .stash namelessNoise singleKey).run () =
      (.error (.undecoded (.unknownEvent "")), ()) := by
  have hd : Provider.gitlab.dialect? = some GitLab.dialect := rfl
  have hk := unknown_event_told hd commitNote_eventIs singleKey ()
  have hd : Provider.stash.dialect? = some Stash.dialect := rfl
  have hn := unknown_event_told hd namelessNoise_eventIs singleKey ()
  have hm : "Note Hook" ∈ Provider.gitlab.eventNames := by decide
  have hs : "" ∉ Provider.stash.eventNames := by decide
  exact ⟨commitNote_eventIs, (hk.2 hm "Commit").2 commitNote_unknownKind, namelessNoise_eventIs,
    hn.1 hs⟩

end WebhookRelay
