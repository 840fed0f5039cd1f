import WebhookRelay.Proofs.Decoding

/-!
Which commit the reference of a branch or tag event points to: the one whose hash the payload gives
for it. An empty hash is taken for none by Gitea and Gogs, and kept by the others.
-/

namespace WebhookRelay

def Subject.ref? : Subject → Option Reference
  | .branch ref _ | .tag ref _ => some ref
  | _ => none

/-- Which hash the body of a named event gives for the reference that it is about, if any. -/
inductive PointsTo : Provider → (event : String) → (body : List UInt8) → Option String → Prop
  | gitHub {event : String} {body : List UInt8} {p : GitHub.RefPayload}
      (he : event = "create" ∨ event = "delete")
      (hp : GitHub.RefPayload.shape.parse body = .ok p) : PointsTo .github event body none
  | giteaBranch {provider : Provider} {event : String} {body : List UInt8} {p : Gitea.RefPayload}
      (hv : provider = .gitea ∨ provider = .gogs) (he : event = "create" ∨ event = "delete")
      (hp : Gitea.RefPayload.shape.parse body = .ok p) (hk : p.refType = "branch") :
      PointsTo provider event body none
  | giteaTag {provider : Provider} {event : String} {body : List UInt8} {p : Gitea.RefPayload}
      (hv : provider = .gitea ∨ provider = .gogs) (he : event = "create" ∨ event = "delete")
      (hp : Gitea.RefPayload.shape.parse body = .ok p) (hk : p.refType = "tag") :
      PointsTo provider event body p.sha
  | gitLab {event : String} {body : List UInt8} {p : GitLab.PushPayload}
      (he : event = "Push Hook" ∨ event = "Tag Push Hook")
      (hp : GitLab.PushPayload.shape.parse body = .ok p) (hz : p.after = GitLab.zeroSha) :
      PointsTo .gitlab event body (some p.before)
  | bitbucketOld {body : List UInt8} {p : Bitbucket.PushPayload} {change : Bitbucket.Change}
      {rest : List Bitbucket.Change} {old : Bitbucket.RefState}
      (hp : Bitbucket.PushPayload.shape.parse body = .ok p) (hc : p.push.changes = change :: rest)
      (hx : change.closed = true) (ho : change.old = some old) :
      PointsTo .bitbucket "repo:push" body (some old.target.hash)
  | bitbucketNew {body : List UInt8} {p : Bitbucket.PushPayload} {change : Bitbucket.Change}
      {rest : List Bitbucket.Change} {new : Bitbucket.RefState}
      (hp : Bitbucket.PushPayload.shape.parse body = .ok p) (hc : p.push.changes = change :: rest)
      (hx : change.closed = false) (hn : change.new = some new) (hk : new.type = "tag") :
      PointsTo .bitbucket "repo:push" body (some new.target.hash)
  | stash {body : List UInt8} {p : Stash.RefsPayload} {change : Stash.Change}
      {rest : List Stash.Change} (hp : Stash.RefsPayload.shape.parse body = .ok p)
      (hc : p.changes = change :: rest) :
      PointsTo .stash "repo:refs_changed" body
        (some (if change.type = "DELETE" then change.fromHash else change.toHash))

/-- How a provider tells a commit by the hash that its payload gives. -/
structure Reference.PointsBy (ref : Reference) (provider : Provider) (hash : Option String) :
    Prop where
  given : provider ∈ [.gitea, .gogs] → ref.sha = Dialect.given? hash
  kept : provider ∉ [.gitea, .gogs] → ref.sha = hash

section PointsBy

variable {provider : Provider} {ref : Reference} {hash : Option String}

theorem Reference.pointsBy_of_kept (hv : provider ∉ [.gitea, .gogs]) (hs : ref.sha = hash) :
    ref.PointsBy provider hash :=
  ⟨fun h => absurd h hv, fun _ => hs⟩

theorem Reference.pointsBy_of_given (hv : provider = .gitea ∨ provider = .gogs)
    (hs : ref.sha = Dialect.given? hash) : ref.PointsBy provider hash := by
  have hm : provider ∈ [.gitea, .gogs] := by rcases hv with rfl | rfl <;> simp
  exact ⟨fun _ => hs, fun h => absurd hm h⟩

theorem Reference.PointsBy.hash_of_sha (h : ref.PointsBy provider hash) {sha : String}
    (hs : ref.sha = some sha) : hash = some sha := by
  by_cases hv : provider ∈ [.gitea, .gogs]
  · exact (given?_eq_some_iff.1 ((h.given hv).symm.trans hs)).1
  · exact (h.kept hv).symm.trans hs

theorem Reference.PointsBy.sha_eq_empty_iff (h : ref.PointsBy provider hash) :
    ref.sha = some "" ↔ provider ∉ [.gitea, .gogs] ∧ hash = some "" := by
  constructor
  · intro hs
    refine ⟨fun hv => ?_, h.hash_of_sha hs⟩
    exact (given?_eq_some_iff.1 ((h.given hv).symm.trans hs)).2 rfl
  · rintro ⟨hv, hh⟩
    exact (h.kept hv).trans hh

end PointsBy

section Dialects

variable {event : String} {body : List UInt8} {decoded : Decoded} {ref : Reference}

theorem GitHub.RefPayload.ref_sha {p : GitHub.RefPayload} {action : Action} {event : Event}
    (h : p.toEvent action = .ok event) (hr : event.subject.ref? = some ref) : ref.sha = none := by
  unfold toEvent at h
  split at h
  · cases h
    cases hr
    rfl
  · cases h
    cases hr
    rfl
  · cases h

theorem GitHub.pointsTo_of_convert {topic : GitHub.Topic} (ht : (event, topic) ∈ GitHub.topics)
    {payload : (GitHub.reading topic).α}
    (hp : (GitHub.reading topic).shape.parse body = .ok payload)
    (h : (GitHub.reading topic).convert payload = .ok decoded)
    (hr : decoded.event.subject.ref? = some ref) :
    ∃ hash, PointsTo .github event body hash ∧ ref.PointsBy .github hash := by
  cases topic with
  | create | delete =>
    have he : event = "create" ∨ event = "delete" := by simp_all [GitHub.topics]
    obtain ⟨found, hf, rfl⟩ := Reading.convert_perhaps_eq_ok_iff.1 h
    have hs := GitHub.RefPayload.ref_sha hf hr
    exact ⟨none, .gitHub he hp, Reference.pointsBy_of_kept (by simp) hs⟩
  | issueComment =>
    cases h
    simp only [GitHub.IssueCommentPayload.toEvent] at hr
    split at hr <;> cases hr
  | push | issue | pullRequest | review | reviewComment =>
    cases h
    cases hr

theorem GitLab.PushPayload.ref_sha {p : GitLab.PushPayload} {event : Event}
    (h : p.toEvent = .ok event) (hr : event.subject.ref? = some ref) :
    p.after = GitLab.zeroSha ∧ ref.sha = some p.before := by
  unfold toEvent at h
  split at h
  · next hz =>
    cases h
    cases hr
    exact ⟨beq_iff_eq.1 hz, rfl⟩
  · next hz =>
    cases h
    cases hr
    exact ⟨beq_iff_eq.1 hz, rfl⟩
  · cases h
    cases hr
  · cases h
    cases hr
  · cases h

theorem GitLab.pointsTo_of_convert {topic : GitLab.Topic} (ht : (event, topic) ∈ GitLab.topics)
    {payload : (GitLab.reading topic).α}
    (hp : (GitLab.reading topic).shape.parse body = .ok payload)
    (h : (GitLab.reading topic).convert payload = .ok decoded)
    (hr : decoded.event.subject.ref? = some ref) :
    ∃ hash, PointsTo .gitlab event body hash ∧ ref.PointsBy .gitlab hash := by
  cases topic with
  | push =>
    have he : event = "Push Hook" ∨ event = "Tag Push Hook" := by simp_all [GitLab.topics]
    obtain ⟨found, hf, rfl⟩ := Reading.convert_perhaps_eq_ok_iff.1 h
    obtain ⟨hz, hs⟩ := GitLab.PushPayload.ref_sha hf hr
    exact ⟨_, .gitLab he hp hz, Reference.pointsBy_of_kept (by simp) hs⟩
  | note =>
    obtain ⟨found, hf, rfl⟩ := Reading.convert_perhaps_eq_ok_iff.1 h
    simp only [GitLab.NotePayload.toEvent] at hf
    split at hf
    · split at hf <;> cases hf
      cases hr
    · split at hf <;> cases hf
      cases hr
    · cases hf
  | issue | mergeRequest =>
    cases h
    cases hr

theorem Gitea.RefPayload.ref_sha {p : Gitea.RefPayload} {action : Action} {event : Event}
    (h : p.toEvent action = .ok event) (hr : event.subject.ref? = some ref) :
    p.refType = "branch" ∧ ref.sha = none ∨
      p.refType = "tag" ∧ ref.sha = Dialect.given? p.sha := by
  unfold toEvent at h
  split at h
  · next hk =>
    cases h
    cases hr
    exact .inr ⟨hk, rfl⟩
  · next hk =>
    cases h
    cases hr
    exact .inl ⟨hk, rfl⟩
  · cases h

theorem Gitea.pointsTo_of_convert {provider : Provider}
    (hv : provider = .gitea ∨ provider = .gogs) {topic : Gitea.Topic}
    (he : topic = .create ∨ topic = .delete → event = "create" ∨ event = "delete")
    {payload : (Gitea.reading topic).α}
    (hp : (Gitea.reading topic).shape.parse body = .ok payload)
    (h : (Gitea.reading topic).convert payload = .ok decoded)
    (hr : decoded.event.subject.ref? = some ref) :
    ∃ hash, PointsTo provider event body hash ∧ ref.PointsBy provider hash := by
  cases topic with
  | create | delete =>
    have he : event = "create" ∨ event = "delete" := he (by simp)
    obtain ⟨found, hf, rfl⟩ := Reading.convert_perhaps_eq_ok_iff.1 h
    rcases Gitea.RefPayload.ref_sha hf hr with ⟨hk, hs⟩ | ⟨hk, hs⟩
    · exact ⟨none, .giteaBranch hv he hp hk, Reference.pointsBy_of_given hv hs⟩
    · exact ⟨_, .giteaTag hv he hp hk, Reference.pointsBy_of_given hv hs⟩
  | issueComment =>
    cases h
    simp only [Gitea.IssueCommentPayload.toEvent] at hr
    split at hr <;> cases hr
  | push | issue | pullRequest | review =>
    cases h
    cases hr

theorem Bitbucket.PushPayload.pointsTo {p : Bitbucket.PushPayload}
    (hp : Bitbucket.PushPayload.shape.parse body = .ok p) {event : Event}
    (h : p.toEvent = .ok event) (hr : event.subject.ref? = some ref) :
    ∃ hash, PointsTo .bitbucket "repo:push" body hash ∧ ref.sha = hash := by
  unfold toEvent at h
  dsimp only at h
  split at h
  · cases h
  · next change rest hc =>
    obtain ⟨subject, hs, h⟩ := Payload.bind_eq_ok_iff.1 h
    cases h
    unfold Bitbucket.Change.subject at hs
    split at hs
    · next hx =>
      split at hs
      · cases hs
      · next old ho =>
        have hb := PointsTo.bitbucketOld hp hc hx ho
        split at hs
        · cases hs
          cases hr
          exact ⟨_, hb, rfl⟩
        · cases hs
          cases hr
          exact ⟨_, hb, rfl⟩
        · cases hs
    · next hx =>
      split at hs
      · cases hs
      · next new hn =>
        split at hs
        · next hk =>
          have hb := PointsTo.bitbucketNew hp hc (Bool.eq_false_iff.2 hx) hn hk
          cases hs
          cases hr
          exact ⟨_, hb, rfl⟩
        · cases hs
          cases hr
        · cases hs

theorem Bitbucket.pointsTo_of_convert {topic : Bitbucket.Topic}
    (ht : (event, topic) ∈ Bitbucket.topics) {payload : (Bitbucket.reading topic).α}
    (hp : (Bitbucket.reading topic).shape.parse body = .ok payload)
    (h : (Bitbucket.reading topic).convert payload = .ok decoded)
    (hr : decoded.event.subject.ref? = some ref) :
    ∃ hash, PointsTo .bitbucket event body hash ∧ ref.PointsBy .bitbucket hash := by
  cases topic with
  | push =>
    obtain rfl : event = "repo:push" := by simp_all [Bitbucket.topics]
    obtain ⟨found, hf, rfl⟩ := Reading.convert_perhaps_eq_ok_iff.1 h
    obtain ⟨hash, hb, hs⟩ := Bitbucket.PushPayload.pointsTo hp hf hr
    exact ⟨hash, hb, Reference.pointsBy_of_kept (by simp) hs⟩
  | pullRequest action | pullRequestComment action =>
    cases h
    cases hr

theorem Stash.deleted_iff {type : String} {action : Action}
    (h : Stash.changeTypes.lookup type = some action) : action = .delete ↔ type = "DELETE" := by
  have hall : ∀ pair ∈ Stash.changeTypes, pair.2 = .delete ↔ pair.1 = "DELETE" := by decide
  exact hall (type, action) (mem_of_lookup h)

theorem Stash.Change.ref_sha {change : Stash.Change} {repo : Stash.Repo} {sender : User}
    {subject : Subject} (h : change.subject repo sender = .ok subject)
    (hr : subject.ref? = some ref) :
    ref.sha = some (if change.type = "DELETE" then change.fromHash else change.toHash) := by
  unfold Stash.Change.subject at h
  split at h
  · cases h
  · next action hl =>
    have hd : (action == .delete) = true ↔ change.type = "DELETE" :=
      beq_iff_eq.trans (Stash.deleted_iff hl)
    dsimp only at h
    simp only [hd] at h
    split at h
    · cases h
      cases hr
      rfl
    · cases h
      split at hr
      · next hd =>
        cases hr
        rw [if_pos hd]
      · cases hr
    · cases h

theorem Stash.pointsTo_of_convert {topic : Stash.Topic} (ht : (event, topic) ∈ Stash.topics)
    {payload : (Stash.reading topic).α}
    (hp : (Stash.reading topic).shape.parse body = .ok payload)
    (h : (Stash.reading topic).convert payload = .ok decoded)
    (hr : decoded.event.subject.ref? = some ref) :
    ∃ hash, PointsTo .stash event body hash ∧ ref.PointsBy .stash hash := by
  cases topic with
  | refs =>
    obtain rfl : event = "repo:refs_changed" := by simp_all [Stash.topics]
    obtain ⟨found, hf, rfl⟩ := Reading.convert_perhaps_eq_ok_iff.1 h
    simp only [Stash.RefsPayload.toEvent] at hf
    split at hf
    · cases hf
    · next change rest hc =>
      obtain ⟨subject, hs, hf⟩ := Payload.bind_eq_ok_iff.1 hf
      cases hf
      have hs := Stash.Change.ref_sha hs hr
      exact ⟨_, .stash hp hc, Reference.pointsBy_of_kept (by simp) hs⟩
  | pullRequest action | pullRequestComment action =>
    cases h
    cases hr

end Dialects

theorem pointsTo_of_decode {provider : Provider} {dialect : Dialect}
    (hd : provider.dialect? = some dialect) {event : String} {body : List UInt8} {decoded : Decoded}
    (h : dialect.decode event body = .ok decoded) {ref : Reference}
    (hr : decoded.event.subject.ref? = some ref) :
    ∃ hash, PointsTo provider event body hash ∧ ref.PointsBy provider hash := by
  obtain ⟨reading, hh, payload, hp, hc⟩ := handled_of_decode hd h
  cases hh with
  | gitHub ht => exact GitHub.pointsTo_of_convert ht hp hc hr
  | gitLab ht => exact GitLab.pointsTo_of_convert ht hp hc hr
  | gitea ht =>
    refine Gitea.pointsTo_of_convert (.inl rfl) (fun hk => ?_) hp hc hr
    rcases hk with rfl | rfl <;> simp_all [Gitea.topics]
  | gogs ht =>
    refine Gitea.pointsTo_of_convert (.inr rfl) (fun hk => ?_) hp hc hr
    rcases hk with rfl | rfl <;> simp_all [Gogs.sharedTopics]
  | gogsPull =>
    cases hc
    cases hr
  | bitbucket ht => exact Bitbucket.pointsTo_of_convert ht hp hc hr
  | stash ht => exact Stash.pointsTo_of_convert ht hp hc hr

theorem PointsTo.provider_of_hash {provider : Provider} {event : String} {body : List UInt8}
    {hash : String} (h : PointsTo provider event body (some hash)) : provider ≠ .github := by
  rintro rfl
  generalize hg : some hash = given at h
  cases h with
  | gitHub => cases hg
  | giteaBranch hv | giteaTag hv => simp at hv

/-- The reference of a branch or tag event has a hash only if its payload gives one. It is the one
that is given, but Gitea and Gogs leave out an empty one, which the others keep. -/
theorem sha_of_decode {provider : Provider} {dialect : Dialect}
    (hd : provider.dialect? = some dialect) {event : String} {body : List UInt8} {decoded : Decoded}
    (h : dialect.decode event body = .ok decoded) {ref : Reference}
    (hr : decoded.event.subject.ref? = some ref) :
    ∃ hash, PointsTo provider event body hash ∧
      (∀ sha, ref.sha = some sha → hash = some sha) ∧
      (provider ∈ [.gitea, .gogs] → ref.sha = Dialect.given? hash) ∧
      (provider ∉ [.gitea, .gogs] → ref.sha = hash) ∧
      (ref.sha = some "" ↔ provider ∈ [.gitlab, .bitbucket, .stash] ∧ hash = some "") := by
  obtain ⟨hash, hp, hb⟩ := pointsTo_of_decode hd h hr
  refine ⟨hash, hp, fun sha hs => hb.hash_of_sha hs, hb.given, hb.kept, ?_⟩
  rw [hb.sha_eq_empty_iff]
  refine and_congr_left fun he => ?_
  rw [he] at hp
  have hg := hp.provider_of_hash
  cases provider with
  | fake => cases hd
  | github => exact absurd rfl hg
  | _ => simp

/-- A branch that was deleted, told without the commit that it stood at. -/
def goneBranch : List UInt8 :=
  ["\x7b\"object_kind\":\"push\",\"before\":\"\",",
    "\"after\":\"0000000000000000000000000000000000000000\",\"ref\":\"refs/heads/b\",",
    "\"user_username\":\"u\",\"project\":\x7b\"id\":1,\"path_with_namespace\":\"g/p\"",
    "\x7d\x7d"].flatMap Text.Utf8.encode

def goneBranchEvent : Event :=
  { subject := .branch { name := "b", sha := some "" } .delete
    repo := { id := "1", owner := "g", name := "p", isPrivate := true }
    sender := { login := "u" } }

theorem goneBranch_decodes :
    GitLab.dialect.decode "Push Hook" goneBranch = .ok { event := goneBranchEvent } := by
  apply Payload.toOption_eq_some_iff.1
  decide +kernel

theorem goneBranch_sha :
    goneBranchEvent.subject.ref? = some { name := "b", sha := some "" } ∧
      PointsTo .gitlab "Push Hook" goneBranch (some "") := by
  have hd : Provider.gitlab.dialect? = some GitLab.dialect := rfl
  have hr : goneBranchEvent.subject.ref? = some { name := "b", sha := some "" } := rfl
  obtain ⟨hash, hp, -, -, hk, -⟩ := sha_of_decode hd goneBranch_decodes hr
  obtain rfl : some "" = hash := hk (by decide)
  exact ⟨hr, hp⟩

/-- It is not so that a reference has no hash but one that is not empty. -/
theorem not_forall_sha_ne_empty :
    ¬ ∀ (provider : Provider) (dialect : Dialect) (event : String) (body : List UInt8)
      (decoded : Decoded) (ref : Reference), provider.dialect? = some dialect →
      dialect.decode event body = .ok decoded → decoded.event.subject.ref? = some ref →
      ref.sha ≠ some "" := by
  intro h
  have hd : Provider.gitlab.dialect? = some GitLab.dialect := rfl
  exact h _ _ _ _ _ _ hd goneBranch_decodes rfl rfl

end WebhookRelay
