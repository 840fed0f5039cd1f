import WebhookRelay.Proofs.Decoding

/-!
What events say was done. Their kind and their provider leave few actions open, and what a pull
request event says of a merge or of pushed commits follows from the verb of its delivery.
-/

namespace WebhookRelay

namespace Action

/-- The verbs that stand for an action. -/
def spellings (action : Action) : List String :=
  (verbs.filter (·.2 = action)).map Prod.fst

theorem ofVerb_eq_iff {verb : String} {action : Action} (ha : action ≠ .unknown) :
    ofVerb verb = action ↔ verb ∈ action.spellings := by
  have hl : verbs.lookup verb = some action ↔ (verb, action) ∈ verbs :=
    lookup_eq_some_iff (by decide +kernel)
  have hs : verb ∈ action.spellings ↔ (verb, action) ∈ verbs := by simp [spellings]
  rw [hs, ← hl, ofVerb]
  cases verbs.lookup verb with
  | none => simp [Ne.symm ha]
  | some found => simp

/-- Only reviews are edited. -/
theorem ofVerb_ne_edited (verb : String) : ofVerb verb ≠ .edited := by
  intro h
  have hm : verb ∈ spellings .edited := (ofVerb_eq_iff (by decide)).1 h
  have hn : spellings .edited = [] := by decide
  rw [hn] at hm
  cases hm

theorem ofReviewVerb_mem (verb : String) :
    ofReviewVerb verb ∈ [submitted, edited, dismissed, unknown] := by
  have hall : ∀ pair ∈ reviewVerbs, pair.2 ∈ [submitted, edited, dismissed, unknown] := by decide
  unfold ofReviewVerb
  cases hl : reviewVerbs.lookup verb with
  | none => simp
  | some action => exact hall (verb, action) (mem_of_lookup hl)

end Action

/-- Whether an event of a provider may say that this was done. -/
def Subject.MayAct (provider : Provider) : Subject → Prop
  | .push _ => True
  | .branch _ action => action = .delete ∨ action = .create ∧ provider ∈ [.github, .gitea, .gogs]
  | .tag _ action =>
    action = .delete ∨ action = .create ∧ provider ≠ .gitlab ∨
      action = .update ∧ provider ∈ [.bitbucket, .stash]
  | .review action _ _ =>
    action ∈ [.submitted, .edited, .dismissed, .unknown] ∧ provider ∉ [.bitbucket, .stash]
  | .issue action _ | .issueComment action _ _ | .pullRequest action _
  | .pullRequestComment action _ _ =>
    action ≠ .edited ∧ (action = .unknown → provider ∉ [.bitbucket, .stash])

/-- What the action of an event is, by its kind and its provider. -/
structure Event.Acts (event : Event) (provider : Provider) : Prop where
  none_iff : event.action? = none ↔ ∃ push, event.subject = .push push
  branch : ∀ ref action, event.subject = .branch ref action →
    action = .delete ∨ action = .create ∧ provider ∈ [.github, .gitea, .gogs]
  tag : ∀ ref action, event.subject = .tag ref action → action ∈ [.create, .delete, .update]
  gitLabTag : provider = .gitlab → ∀ ref action, event.subject = .tag ref action → action = .delete
  updatedTag : ∀ ref, event.subject = .tag ref .update → provider ∈ [.bitbucket, .stash]
  review : ∀ action pull review, event.subject = .review action pull review →
    action ∈ [.submitted, .edited, .dismissed, .unknown]
  edited : event.action? = some .edited → ∃ pull review, event.subject = .review .edited pull review
  unknown : event.action? = some .unknown → provider ∉ [.bitbucket, .stash]

theorem Event.action?_eq_none_iff {event : Event} :
    event.action? = none ↔ ∃ push, event.subject = .push push := by
  unfold Event.action?
  cases event.subject with
  | push push => simp [Subject.action?]
  | _ => simp [Subject.action?]

theorem Subject.MayAct.of_edited {provider : Provider} {subject : Subject}
    (h : subject.MayAct provider) (he : subject.action? = some .edited) :
    ∃ pull review, subject = .review .edited pull review := by
  cases subject with
  | push push => cases he
  | branch ref action | tag ref action =>
    obtain rfl : action = .edited := Option.some.inj he
    simp [MayAct] at h
  | review action pull review =>
    obtain rfl : action = .edited := Option.some.inj he
    exact ⟨pull, review, rfl⟩
  | issue action | issueComment action | pullRequest action | pullRequestComment action =>
    exact absurd (Option.some.inj he) h.1

theorem Subject.MayAct.of_unknown {provider : Provider} {subject : Subject}
    (h : subject.MayAct provider) (hu : subject.action? = some .unknown) :
    provider ∉ [.bitbucket, .stash] := by
  cases subject with
  | push push => cases hu
  | branch ref action | tag ref action =>
    obtain rfl : action = .unknown := Option.some.inj hu
    simp [MayAct] at h
  | review => exact h.2
  | issue action | issueComment action | pullRequest action | pullRequestComment action =>
    exact h.2 (Option.some.inj hu)

theorem Subject.MayAct.acts {event : Event} {provider : Provider}
    (h : event.subject.MayAct provider) : event.Acts provider where
  none_iff := Event.action?_eq_none_iff
  branch ref action hs := by
    rw [hs] at h
    exact h
  tag ref action hs := by
    rw [hs] at h
    rcases h with rfl | ⟨rfl, -⟩ | ⟨rfl, -⟩ <;> simp
  gitLabTag hv ref action hs := by
    rw [hs, hv] at h
    rcases h with ha | ⟨-, hn⟩ | ⟨-, hm⟩
    · exact ha
    · exact absurd rfl hn
    · simp at hm
  updatedTag ref hs := by
    rw [hs] at h
    rcases h with ha | ⟨ha, -⟩ | ⟨-, hm⟩
    · cases ha
    · cases ha
    · exact hm
  review action pull review hs := by
    rw [hs] at h
    exact h.1
  edited := h.of_edited
  unknown := h.of_unknown

/-- The verb of a delivery may stand for any action but an edited review. -/
theorem mayAct_ofVerb {provider : Provider} (hv : provider ∉ [.bitbucket, .stash]) (verb : String) :
    Action.ofVerb verb ≠ .edited ∧
      (Action.ofVerb verb = .unknown → provider ∉ [.bitbucket, .stash]) :=
  ⟨Action.ofVerb_ne_edited verb, fun _ => hv⟩

theorem mayAct_of_not_mem {provider : Provider} {action : Action}
    (ha : some action ∉ [some Action.edited, some .unknown]) :
    action ≠ .edited ∧ (action = .unknown → provider ∉ [.bitbucket, .stash]) := by
  simp only [List.mem_cons, Option.some.injEq, List.not_mem_nil, or_false, not_or] at ha
  exact ⟨ha.1, fun hu => absurd hu ha.2⟩

/-- References are created and deleted. -/
theorem mayAct_ref {provider : Provider} (hv : provider ∈ [.github, .gitea, .gogs])
    {action : Action} (ha : action ∈ [.create, .delete]) (ref : Reference) :
    (Subject.branch ref action).MayAct provider ∧ (Subject.tag ref action).MayAct provider := by
  have hn : provider ≠ .gitlab := by
    rintro rfl
    simp at hv
  simp only [List.mem_cons, List.not_mem_nil, or_false] at ha
  rcases ha with rfl | rfl
  · exact ⟨.inr ⟨rfl, hv⟩, .inr (.inl ⟨rfl, hn⟩)⟩
  · exact ⟨.inl rfl, .inl rfl⟩

namespace GitHub

theorem RefPayload.mayAct {p : RefPayload} {action : Action} (ha : action ∈ [.create, .delete])
    {event : Event} (h : p.toEvent action = .ok event) : event.subject.MayAct .github := by
  have hv : Provider.github ∈ [.github, .gitea, .gogs] := by simp
  have hr (ref : Reference) := mayAct_ref hv ha ref
  unfold toEvent at h
  split at h
  · cases h
    exact (hr _).1
  · cases h
    exact (hr _).2
  · cases h

theorem IssueCommentPayload.mayAct (p : IssueCommentPayload) :
    p.toEvent.subject.MayAct .github := by
  unfold toEvent
  dsimp only
  split <;> exact mayAct_ofVerb (by simp) p.action

theorem PullPayload.mayAct (p : PullPayload) : p.toEvent.subject.MayAct .github := by
  have hv : Provider.github ∉ [.bitbucket, .stash] := by simp
  have ha := mayAct_ofVerb hv p.action
  show Subject.MayAct .github (.pullRequest (if _ then _ else _) _)
  split
  · exact ⟨by decide, fun hu => by cases hu⟩
  · exact ha

theorem mayAct_of_convert {topic : Topic} {payload : (reading topic).α} {decoded : Decoded}
    (h : (reading topic).convert payload = .ok decoded) :
    decoded.event.subject.MayAct .github := by
  cases topic with
  | push =>
    cases h
    trivial
  | create | delete =>
    obtain ⟨event, he, rfl⟩ := Reading.convert_perhaps_eq_ok_iff.1 h
    exact RefPayload.mayAct (by simp) he
  | issueComment =>
    cases h
    exact IssueCommentPayload.mayAct payload
  | pullRequest =>
    cases h
    exact PullPayload.mayAct payload
  | issue | reviewComment =>
    cases h
    exact mayAct_ofVerb (by simp) _
  | review =>
    cases h
    exact ⟨Action.ofReviewVerb_mem _, by simp⟩

end GitHub

namespace GitLab

theorem PushPayload.mayAct {p : PushPayload} {event : Event} (h : p.toEvent = .ok event) :
    event.subject.MayAct .gitlab := by
  unfold toEvent at h
  split at h
  · cases h
    exact .inl rfl
  · cases h
    exact .inl rfl
  · cases h
    trivial
  · cases h
    trivial
  · cases h

/-- Where no verb is told, another action than an edited review stands for it. -/
theorem mayAct_verb? (verb? : Option String) {other : Action} (ho : other ≠ .edited) :
    (verb?.map Action.ofVerb).getD other ≠ .edited := by
  cases verb? with
  | none => exact ho
  | some verb => exact Action.ofVerb_ne_edited verb

theorem MergeRequest.toAction_ne_edited (m : MergeRequest) : m.toAction ≠ .edited := by
  unfold toAction
  split
  · decide
  · next verb hv =>
    split
    · decide
    · exact Action.ofVerb_ne_edited verb

theorem NotePayload.mayAct {p : NotePayload} {event : Event} (h : p.toEvent = .ok event) :
    event.subject.MayAct .gitlab := by
  have hc : Action.create ≠ .edited := by decide
  have ha := mayAct_verb? p.note.action hc
  unfold toEvent at h
  dsimp only at h
  split at h
  · split at h <;> cases h
    exact ⟨ha, fun _ => by simp⟩
  · split at h <;> cases h
    exact ⟨ha, fun _ => by simp⟩
  · cases h

theorem mayAct_of_convert {topic : Topic} {payload : (reading topic).α} {decoded : Decoded}
    (h : (reading topic).convert payload = .ok decoded) :
    decoded.event.subject.MayAct .gitlab := by
  cases topic with
  | push =>
    obtain ⟨event, he, rfl⟩ := Reading.convert_perhaps_eq_ok_iff.1 h
    exact PushPayload.mayAct he
  | issue =>
    cases h
    exact ⟨mayAct_verb? _ (by decide), fun _ => by simp⟩
  | mergeRequest =>
    cases h
    exact ⟨MergeRequest.toAction_ne_edited _, fun _ => by simp⟩
  | note =>
    obtain ⟨event, he, rfl⟩ := Reading.convert_perhaps_eq_ok_iff.1 h
    exact NotePayload.mayAct he

end GitLab

section Gitea

variable {provider : Provider} (hv : provider = .gitea ∨ provider = .gogs)
include hv

theorem Gitea.mayAct_ofVerb (verb : String) :
    Action.ofVerb verb ≠ .edited ∧
      (Action.ofVerb verb = .unknown → provider ∉ [.bitbucket, .stash]) := by
  apply WebhookRelay.mayAct_ofVerb
  rcases hv with rfl | rfl <;> simp

theorem Gitea.RefPayload.mayAct {p : Gitea.RefPayload} {action : Action}
    (ha : action ∈ [.create, .delete]) {event : Event} (h : p.toEvent action = .ok event) :
    event.subject.MayAct provider := by
  have hm : provider ∈ [.github, .gitea, .gogs] := by rcases hv with rfl | rfl <;> simp
  have hr (ref : Reference) := mayAct_ref hm ha ref
  unfold toEvent at h
  split at h
  · cases h
    exact (hr _).2
  · cases h
    exact (hr _).1
  · cases h

theorem Gitea.IssueCommentPayload.mayAct (p : Gitea.IssueCommentPayload) :
    p.toEvent.subject.MayAct provider := by
  unfold toEvent
  dsimp only
  split <;> exact Gitea.mayAct_ofVerb hv p.action

theorem Gitea.mayAct_of_convert {topic : Gitea.Topic} {payload : (Gitea.reading topic).α}
    {decoded : Decoded} (h : (Gitea.reading topic).convert payload = .ok decoded) :
    decoded.event.subject.MayAct provider := by
  cases topic with
  | push =>
    cases h
    trivial
  | create | delete =>
    obtain ⟨event, he, rfl⟩ := Reading.convert_perhaps_eq_ok_iff.1 h
    exact Gitea.RefPayload.mayAct hv (by simp) he
  | issueComment =>
    cases h
    exact Gitea.IssueCommentPayload.mayAct hv payload
  | issue | pullRequest =>
    cases h
    exact Gitea.mayAct_ofVerb hv _
  | review =>
    cases h
    exact ⟨Action.ofReviewVerb_mem _, by rcases hv with rfl | rfl <;> simp⟩

end Gitea

theorem Gogs.mayAct_of_convert {payload : Gogs.pullReading.α} {decoded : Decoded}
    (h : Gogs.pullReading.convert payload = .ok decoded) :
    decoded.event.subject.MayAct .gogs := by
  cases h
  exact Gitea.mayAct_ofVerb (.inr rfl) _

namespace Bitbucket

/-- The action that the name of an event tells. -/
def Topic.action? : Topic → Option Action
  | .push => none
  | .pullRequest action | .pullRequestComment action => some action

theorem action?_of_topics {event : String} {topic : Topic} (ht : (event, topic) ∈ topics) :
    topic.action? ∉ [some .edited, some .unknown] := by
  have hall : ∀ pair ∈ topics, pair.2.action? ∉ [some .edited, some .unknown] := by decide
  exact hall _ ht

theorem Change.mayAct {change : Change} {sender : User} {subject : Subject}
    (h : change.subject sender = .ok subject) : subject.MayAct .bitbucket := by
  unfold Change.subject at h
  split at h
  · split at h
    · cases h
    · split at h
      · cases h
        exact .inl rfl
      · cases h
        exact .inl rfl
      · cases h
  · split at h
    · cases h
    · split at h
      · cases h
        split
        · exact .inr (.inl ⟨rfl, by decide⟩)
        · exact .inr (.inr ⟨rfl, by simp⟩)
      · cases h
        trivial
      · cases h

theorem PushPayload.mayAct {p : PushPayload} {event : Event} (h : p.toEvent = .ok event) :
    event.subject.MayAct .bitbucket := by
  unfold toEvent at h
  dsimp only at h
  split at h
  · cases h
  · next change rest hc =>
    obtain ⟨subject, hs, h⟩ := Payload.bind_eq_ok_iff.1 h
    cases h
    exact Change.mayAct hs

theorem mayAct_of_convert {event : String} {topic : Topic} (ht : (event, topic) ∈ topics)
    {payload : (reading topic).α} {decoded : Decoded}
    (h : (reading topic).convert payload = .ok decoded) :
    decoded.event.subject.MayAct .bitbucket := by
  have ha := action?_of_topics ht
  cases topic with
  | push =>
    obtain ⟨event, he, rfl⟩ := Reading.convert_perhaps_eq_ok_iff.1 h
    exact PushPayload.mayAct he
  | pullRequest action | pullRequestComment action =>
    cases h
    exact mayAct_of_not_mem ha

end Bitbucket

namespace Stash

/-- The action that the name of an event tells. -/
def Topic.action? : Topic → Option Action
  | .refs => none
  | .pullRequest action | .pullRequestComment action => some action

theorem action?_of_topics {event : String} {topic : Topic} (ht : (event, topic) ∈ topics) :
    topic.action? ∉ [some .edited, some .unknown] := by
  have hall : ∀ pair ∈ topics, pair.2.action? ∉ [some .edited, some .unknown] := by decide
  exact hall _ ht

theorem action_of_changeTypes {type : String} {action : Action}
    (h : changeTypes.lookup type = some action) : action ∈ [.create, .update, .delete] := by
  have hall : ∀ pair ∈ changeTypes, pair.2 ∈ [Action.create, .update, .delete] := by decide
  exact hall _ (mem_of_lookup h)

theorem Change.mayAct {change : Change} {repo : Repo} {sender : User} {subject : Subject}
    (h : change.subject repo sender = .ok subject) : subject.MayAct .stash := by
  unfold Change.subject at h
  split at h
  · cases h
  · next action hl =>
    have ha := action_of_changeTypes hl
    simp only [List.mem_cons, List.not_mem_nil, or_false] at ha
    dsimp only at h
    split at h
    · cases h
      rcases ha with rfl | rfl | rfl
      · exact .inr (.inl ⟨rfl, by decide⟩)
      · exact .inr (.inr ⟨rfl, by simp⟩)
      · exact .inl rfl
    · split at h
      · next hd =>
        cases h
        exact .inl (beq_iff_eq.1 hd)
      · cases h
        trivial
    · cases h

theorem RefsPayload.mayAct {p : RefsPayload} {event : Event} (h : p.toEvent = .ok event) :
    event.subject.MayAct .stash := by
  unfold toEvent at h
  dsimp only at h
  split at h
  · cases h
  · next change rest hc =>
    obtain ⟨subject, hs, h⟩ := Payload.bind_eq_ok_iff.1 h
    cases h
    exact Change.mayAct hs

theorem mayAct_of_convert {event : String} {topic : Topic} (ht : (event, topic) ∈ topics)
    {payload : (reading topic).α} {decoded : Decoded}
    (h : (reading topic).convert payload = .ok decoded) :
    decoded.event.subject.MayAct .stash := by
  have ha := action?_of_topics ht
  cases topic with
  | refs =>
    obtain ⟨event, he, rfl⟩ := Reading.convert_perhaps_eq_ok_iff.1 h
    exact RefsPayload.mayAct he
  | pullRequest action | pullRequestComment action =>
    cases h
    exact mayAct_of_not_mem ha

end Stash

theorem mayAct_of_decode {provider : Provider} {dialect : Dialect}
    (hd : provider.dialect? = some dialect) {event : String} {body : List UInt8} {decoded : Decoded}
    (h : dialect.decode event body = .ok decoded) : decoded.event.subject.MayAct provider := by
  obtain ⟨reading, hr, payload, -, hc⟩ := handled_of_decode hd h
  cases hr with
  | gitHub => exact GitHub.mayAct_of_convert hc
  | gitLab => exact GitLab.mayAct_of_convert hc
  | gitea => exact Gitea.mayAct_of_convert (.inl rfl) hc
  | gogs => exact Gitea.mayAct_of_convert (.inr rfl) hc
  | gogsPull => exact Gogs.mayAct_of_convert hc
  | bitbucket ht => exact Bitbucket.mayAct_of_convert ht hc
  | stash ht => exact Stash.mayAct_of_convert ht hc

/-- A pull request is merged where the verb says so, or where it is closed and marked as merged. -/
structure GitHub.ActsOnPull (p : GitHub.PullPayload) (action : Action) : Prop where
  open_of_close : action = .close → p.pull.toPullRequest.merged = false
  merge_iff : action = .merge ↔
    p.action ∈ ["merge", "merged"] ∨ p.action ∈ ["close", "closed"] ∧ p.pull.merged = some true

/-- Commits are pushed where the verb says so, or where an update tells the old revision. -/
def GitLab.ActsOnMergeRequest (m : GitLab.MergeRequest) (action : Action) : Prop :=
  action = .sync ↔ m.action ∈ [some "synchronize", some "synchronized"] ∨
    m.action = some "update" ∧ m.oldRevision ≠ none

theorem GitHub.Pull.merged_iff (p : GitHub.Pull) :
    p.toPullRequest.merged = true ↔ p.merged = some true := by
  show p.merged.getD false = true ↔ _
  rcases p.merged with - | - | - <;> simp

theorem GitHub.PullPayload.actsOnPull (p : GitHub.PullPayload) :
    ∃ action, p.toEvent.subject = .pullRequest action p.pull.toPullRequest ∧
      GitHub.ActsOnPull p action := by
  have hc : Action.ofVerb p.action = .close ↔ p.action ∈ ["close", "closed"] :=
    Action.ofVerb_eq_iff (by decide)
  have hm : Action.ofVerb p.action = .merge ↔ p.action ∈ ["merge", "merged"] :=
    Action.ofVerb_eq_iff (by decide)
  refine ⟨_, rfl, ?_, ?_⟩
  · intro ha
    split at ha
    · cases ha
    · next hn => simpa [ha] using hn
  · rw [← hc, ← hm, ← p.pull.merged_iff]
    split
    · next h => simp [h]
    · next hn => exact ⟨.inl, fun h => h.resolve_right hn⟩

theorem GitLab.MergeRequest.actsOnMergeRequest (m : GitLab.MergeRequest) :
    GitLab.ActsOnMergeRequest m m.toAction := by
  unfold ActsOnMergeRequest toAction
  cases m.action with
  | none => simp
  | some verb =>
    have hs : Action.ofVerb verb = .sync ↔ verb ∈ ["synchronize", "synchronized"] :=
      Action.ofVerb_eq_iff (by decide)
    have ho : m.oldRevision.isSome = true ↔ m.oldRevision ≠ none := Option.isSome_iff_ne_none
    dsimp only
    split
    · next h => simp [h, ← ho]
    · next hn =>
      have hl : some verb ∈ [some "synchronize", some "synchronized"] ↔
          verb ∈ ["synchronize", "synchronized"] := by simp
      rw [hs, hl, Option.some.injEq, ← ho]
      exact ⟨.inl, fun h => h.resolve_right hn⟩

/-- Whether a delivery is of a pull request, by its name or by its event. -/
def IsPull (name event : String) (subject : Subject) : Prop :=
  event = name ∨ ∃ action pull, subject = .pullRequest action pull

theorem GitHub.topic_of_isPull {event : String} {topic : GitHub.Topic}
    (ht : (event, topic) ∈ GitHub.topics) {payload : (GitHub.reading topic).α} {decoded : Decoded}
    (h : (GitHub.reading topic).convert payload = .ok decoded)
    (hp : IsPull "pull_request" event decoded.event.subject) : topic = .pullRequest := by
  rcases hp with rfl | ⟨action, pull, hs⟩
  · simpa [GitHub.topics] using ht
  · cases topic with
    | pullRequest => rfl
    | create | delete =>
      obtain ⟨found, hf, rfl⟩ := Reading.convert_perhaps_eq_ok_iff.1 h
      simp only [GitHub.RefPayload.toEvent] at hf
      split at hf <;> cases hf <;> cases hs
    | issueComment =>
      cases h
      simp only [GitHub.IssueCommentPayload.toEvent] at hs
      split at hs <;> cases hs
    | push | issue | review | reviewComment =>
      cases h
      cases hs

theorem GitLab.topic_of_isPull {event : String} {topic : GitLab.Topic}
    (ht : (event, topic) ∈ GitLab.topics) {payload : (GitLab.reading topic).α} {decoded : Decoded}
    (h : (GitLab.reading topic).convert payload = .ok decoded)
    (hp : IsPull "Merge Request Hook" event decoded.event.subject) : topic = .mergeRequest := by
  rcases hp with rfl | ⟨action, pull, hs⟩
  · simpa [GitLab.topics] using ht
  · cases topic with
    | mergeRequest => rfl
    | push =>
      obtain ⟨found, hf, rfl⟩ := Reading.convert_perhaps_eq_ok_iff.1 h
      simp only [GitLab.PushPayload.toEvent] at hf
      split at hf <;> cases hf <;> cases hs
    | note =>
      obtain ⟨found, hf, rfl⟩ := Reading.convert_perhaps_eq_ok_iff.1 h
      simp only [GitLab.NotePayload.toEvent] at hf
      split at hf
      · split at hf <;> cases hf
        cases hs
      · split at hf <;> cases hf
        cases hs
      · cases hf
    | issue =>
      cases h
      cases hs

theorem GitHub.pull_of_decode {event : String} {body : List UInt8} {decoded : Decoded}
    (h : GitHub.dialect.decode event body = .ok decoded)
    (hp : IsPull "pull_request" event decoded.event.subject) :
    ∃ p action, GitHub.PullPayload.shape.parse body = .ok p ∧
      decoded.event.subject = .pullRequest action p.pull.toPullRequest ∧
      GitHub.ActsOnPull p action := by
  have hd : Provider.github.dialect? = some GitHub.dialect := rfl
  obtain ⟨reading, hr, payload, hb, hc⟩ := handled_of_decode hd h
  cases hr with
  | gitHub ht =>
    obtain rfl := GitHub.topic_of_isPull ht hc hp
    obtain ⟨action, ha⟩ := GitHub.PullPayload.actsOnPull payload
    cases hc
    exact ⟨payload, action, hb, ha⟩

theorem GitLab.pull_of_decode {event : String} {body : List UInt8} {decoded : Decoded}
    (h : GitLab.dialect.decode event body = .ok decoded)
    (hp : IsPull "Merge Request Hook" event decoded.event.subject) :
    ∃ p action pull, GitLab.MergeRequestPayload.shape.parse body = .ok p ∧
      decoded.event.subject = .pullRequest action pull ∧
      GitLab.ActsOnMergeRequest p.mergeRequest action := by
  have hd : Provider.gitlab.dialect? = some GitLab.dialect := rfl
  obtain ⟨reading, hr, payload, hb, hc⟩ := handled_of_decode hd h
  cases hr with
  | gitLab ht =>
    obtain rfl := GitLab.topic_of_isPull ht hc hp
    cases hc
    exact ⟨payload, _, _, hb, rfl, payload.mergeRequest.actsOnMergeRequest⟩

/-- Whatever decodes to an event says that something was done which its kind and its provider
allow, and the verbs of GitHub and GitLab decide what is told of merges and of pushed commits. -/
theorem action_of_decode {provider : Provider} {dialect : Dialect}
    (hd : provider.dialect? = some dialect) {event : String} {body : List UInt8} {decoded : Decoded}
    (h : dialect.decode event body = .ok decoded) :
    decoded.event.Acts provider ∧
      (provider = .github → IsPull "pull_request" event decoded.event.subject →
        ∃ p action, GitHub.PullPayload.shape.parse body = .ok p ∧
          decoded.event.subject = .pullRequest action p.pull.toPullRequest ∧
          GitHub.ActsOnPull p action) ∧
      (provider = .gitlab → IsPull "Merge Request Hook" event decoded.event.subject →
        ∃ p action pull, GitLab.MergeRequestPayload.shape.parse body = .ok p ∧
          decoded.event.subject = .pullRequest action pull ∧
          GitLab.ActsOnMergeRequest p.mergeRequest action) := by
  refine ⟨(mayAct_of_decode hd h).acts, ?_, ?_⟩
  · rintro rfl hp
    cases hd
    exact GitHub.pull_of_decode h hp
  · rintro rfl hp
    cases hd
    exact GitLab.pull_of_decode h hp

/-- An update of a merge request that pushed commits. -/
def pushedUpdate : List UInt8 :=
  ["\x7b\"user\":\x7b\"username\":\"u\"\x7d,",
    "\"project\":\x7b\"id\":1,\"path_with_namespace\":\"g/p\"\x7d,",
    "\"object_attributes\":\x7b\"iid\":1,\"title\":\"t\",\"state\":\"opened\",",
    "\"action\":\"update\",\"source_branch\":\"a\",\"target_branch\":\"b\",",
    "\"oldrev\":\"\"\x7d\x7d"].flatMap Text.Utf8.encode

def pushedUpdateEvent : Event :=
  let pull : PullRequest :=
    { number := 1, title := "t", ref := "refs/merge-requests/1/head", source := "a", target := "b"
      author := { login := "u" } }
  { subject := .pullRequest .sync pull
    repo := { id := "1", owner := "g", name := "p", isPrivate := true }
    sender := { login := "u" } }

theorem pushedUpdate_decodes :
    GitLab.dialect.decode "Merge Request Hook" pushedUpdate = .ok { event := pushedUpdateEvent } := by
  apply Payload.toOption_eq_some_iff.1
  decide +kernel

theorem pushedUpdate_acts :
    pushedUpdateEvent.Acts .gitlab ∧
      ∃ p, GitLab.MergeRequestPayload.shape.parse pushedUpdate = .ok p ∧
        GitLab.ActsOnMergeRequest p.mergeRequest .sync := by
  have hd : Provider.gitlab.dialect? = some GitLab.dialect := rfl
  obtain ⟨ha, -, hm⟩ := action_of_decode hd pushedUpdate_decodes
  obtain ⟨p, action, pull, hp, hs, hm⟩ := hm rfl (.inl rfl)
  cases hs
  exact ⟨ha, p, hp, hm⟩

end WebhookRelay
