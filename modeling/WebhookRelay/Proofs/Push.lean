import Mathlib.Data.List.Forall2
import WebhookRelay.Proofs.Person

/-!
The commits of a push, and the one that stands for it. Every commit is told by the payload. Which one
stands for the push, every dialect chooses by one rule, from other parts of its payload: what is
listed in which order, who pushed, and which hash was pushed to.
-/

namespace WebhookRelay

/-- What a payload tells of a commit. -/
structure CommitSource where
  sha : String
  message : String
  link : String
  author : Person
  committer : Person
  /-- When both of them made it. -/
  date : Option Timestamp

/-- Whether a commit says what its source does. -/
structure CommitSource.Is (source : CommitSource) (commit : Commit) : Prop where
  sha_eq : commit.sha = source.sha
  message_eq : commit.message = source.message
  link_eq : commit.link = source.link
  author : source.author.Signs commit.author
  committer : source.committer.Signs commit.committer
  author_date_eq : commit.author.date = source.date
  committer_date_eq : commit.committer.date = source.date

/-- What a payload tells of a push. Its `commits` are all that it lists, in its order. -/
structure PushSource where
  commits : List CommitSource
  pusher : User
  after : String
  /-- The hash that is looked for among the commits. -/
  target : String
  /-- The head commit that the payload names beside the list. -/
  head : Option CommitSource := none
  newestFirst : Bool

section Forall₂

variable {α β γ : Type}

theorem exists_of_mem_right {R : α → β → Prop} {as : List α} {bs : List β}
    (h : List.Forall₂ R as bs) {b : β} (hb : b ∈ bs) : ∃ a ∈ as, R a b := by
  induction h with
  | nil => cases hb
  | @cons a b' as bs hab _ ih =>
    rcases List.mem_cons.1 hb with rfl | hb
    · exact ⟨a, List.mem_cons_self, hab⟩
    · obtain ⟨a', ha, hr⟩ := ih hb
      exact ⟨a', List.mem_cons_of_mem a ha, hr⟩

theorem forall₂_map {R : β → γ → Prop} {f : α → β} {g : α → γ} (h : ∀ a, R (f a) (g a))
    (as : List α) : List.Forall₂ R (as.map f) (as.map g) := by
  rw [List.forall₂_map_left_iff, List.forall₂_map_right_iff, List.forall₂_same]
  exact fun a _ => h a

end Forall₂

namespace PushSource

/-- The newest of the commits that are made of those that the source lists. -/
def newest? (source : PushSource) (commits : List Commit) : Option Commit :=
  if source.newestFirst then commits.head? else commits.getLast?

variable {source : PushSource} {commits : List Commit} {link : String} {commit : Commit}

theorem mem_of_newest? (h : source.newest? commits = some commit) : commit ∈ commits := by
  unfold newest? at h
  split at h
  · exact List.mem_of_head? h
  · exact List.mem_of_getLast? h

/-- Which commit stands for a push of these commits with this link. -/
inductive IsHead (source : PushSource) (commits : List Commit) (link : String) : Commit → Prop
  | unlisted {commit : Commit} (hl : commits = []) (hs : commit.sha = source.after)
      (hm : commit.message = "") (hk : commit.link = link)
      (ha : commit.author = ⟨source.pusher.login, source.pusher.name, source.pusher.email,
        source.pusher.avatar, none⟩)
      (hc : commit.committer = commit.author) : IsHead source commits link commit
  | supplied {head : CommitSource} {commit : Commit} (hl : commits ≠ [])
      (hh : source.head = some head) (hc : head.Is commit) : IsHead source commits link commit
  | matching {before after : List Commit} {commit : Commit} (hh : source.head = none)
      (hl : commits = before ++ commit :: after) (hs : commit.sha = source.target)
      (hb : ∀ earlier ∈ before, earlier.sha ≠ source.target) : IsHead source commits link commit
  | newest {commit : Commit} (hh : source.head = none)
      (hn : ∀ listed ∈ commits, listed.sha ≠ source.target)
      (hf : source.newest? commits = some commit) : IsHead source commits link commit

/-- Whether a push says what its source does, commit by commit. -/
structure Makes (source : PushSource) (push : Push) : Prop where
  commits : List.Forall₂ CommitSource.Is source.commits push.commits
  after_eq : push.after = source.after
  isHead : source.IsHead push.commits push.compare push.commit

theorem isHead_pushedBy (hl : commits = []) :
    source.IsHead commits link (.pushedBy source.pusher source.after link) :=
  .unlisted hl rfl rfl rfl rfl rfl

theorem isHead_headCommit (hh : source.head = none) (hf : source.newest? commits = some commit) :
    source.IsHead commits link (Dialect.headCommit source.target commit commits) := by
  unfold Dialect.headCommit
  cases hm : commits.find? (·.sha == source.target) with
  | none =>
    refine .newest hh (fun listed hl hs => ?_) hf
    exact List.find?_eq_none.1 hm listed hl (beq_iff_eq.2 hs)
  | some found =>
    obtain ⟨hs, before, after, hl, hb⟩ := List.find?_eq_some_iff_append.1 hm
    refine .matching hh hl (beq_iff_eq.1 hs) fun earlier he hs => ?_
    have hb := hb earlier he
    rw [beq_iff_eq.2 hs] at hb
    cases hb

theorem isHead_of_newestFirst (ho : source.newestFirst = true) (hh : source.head = none) :
    source.IsHead commits link
      (match commits with
      | [] => .pushedBy source.pusher source.after link
      | first :: _ => Dialect.headCommit source.target first commits) := by
  cases commits with
  | nil => exact isHead_pushedBy rfl
  | cons first rest =>
    have hf : source.newest? (first :: rest) = some first := by
      rw [newest?, if_pos ho, List.head?_cons]
    exact isHead_headCommit hh hf

theorem isHead_of_newestLast (ho : source.newestFirst = false) (hh : source.head = none) :
    source.IsHead commits link
      (match commits.getLast? with
      | none => .pushedBy source.pusher source.after link
      | some last => Dialect.headCommit source.target last commits) := by
  have hf : source.newest? commits = commits.getLast? := by
    rw [newest?, ho, if_neg Bool.false_ne_true]
  split
  · next hl => exact isHead_pushedBy (List.getLast?_eq_none_iff.1 hl)
  · next last hl => exact isHead_headCommit hh (hf.trans hl)

/-- Unless the payload names a head commit, a listed one is chosen wherever there is any. -/
theorem IsHead.mem (h : source.IsHead commits link commit) (hl : commits ≠ [])
    (hh : source.head = none) : commit ∈ commits := by
  cases h with
  | unlisted he => exact absurd he hl
  | supplied _ hs => cases hh.symm.trans hs
  | matching _ he =>
    rw [he]
    exact List.mem_append_right _ List.mem_cons_self
  | newest _ _ hf => exact mem_of_newest? hf

end PushSource

section Sources

open PushSource

def GitHub.PushedCommit.source (c : GitHub.PushedCommit) : CommitSource where
  sha := c.id
  message := c.message
  link := c.link.toText
  author := c.author.person
  committer := c.committer.person
  date := some c.time

theorem GitHub.PushedCommit.source_is (c : GitHub.PushedCommit) : c.source.Is c.toCommit :=
  ⟨rfl, rfl, rfl, c.author.person_signs c.time, c.committer.person_signs c.time, rfl, rfl⟩

def GitHub.PushPayload.source (p : GitHub.PushPayload) (pusher : User) : PushSource where
  commits := p.commits.map GitHub.PushedCommit.source
  pusher := pusher
  after := p.after
  target := p.after
  head := p.head.map GitHub.PushedCommit.source
  newestFirst := false

theorem GitHub.PushPayload.source_makes {p : GitHub.PushPayload} {push : Push}
    (h : p.toEvent.subject = .push push) : (p.source p.pusher.toUser).Makes push := by
  cases h
  refine ⟨forall₂_map GitHub.PushedCommit.source_is p.commits, rfl, ?_⟩
  have hs : (p.source p.pusher.toUser).head = p.head.map GitHub.PushedCommit.source := rfl
  dsimp only
  split
  · next hl => exact isHead_pushedBy (List.getLast?_eq_none_iff.1 hl)
  · next last head hl hh =>
    rw [hh] at hs
    refine .supplied (fun he => ?_) hs head.source_is
    cases hl.symm.trans (List.getLast?_eq_none_iff.2 he)
  · next last hl hh =>
    rw [hh] at hs
    exact isHead_headCommit hs hl

/-- The author stands for the committer too. -/
def GitLab.PushedCommit.source (c : GitLab.PushedCommit) : CommitSource where
  sha := c.id
  message := c.message
  link := c.link
  author := c.author.person
  committer := c.author.person
  date := c.time

theorem GitLab.PushedCommit.source_is (c : GitLab.PushedCommit) : c.source.Is c.toCommit :=
  ⟨rfl, rfl, rfl, c.author.person_signs c.time, c.author.person_signs c.time, rfl, rfl⟩

def GitLab.PushPayload.source (p : GitLab.PushPayload) (sender : User) : PushSource where
  commits := p.commits.map GitLab.PushedCommit.source
  pusher := sender
  after := p.after
  target := p.checkout.getD p.after
  newestFirst := false

theorem GitLab.PushPayload.source_makes (p : GitLab.PushPayload) :
    (p.source p.sender).Makes p.push :=
  ⟨forall₂_map GitLab.PushedCommit.source_is p.commits, rfl, isHead_of_newestLast rfl rfl⟩

def Gitea.PushedCommit.source (c : Gitea.PushedCommit) : CommitSource where
  sha := c.id
  message := c.message
  link := c.link
  author := c.author.person
  committer := c.committer.person
  date := c.time

theorem Gitea.PushedCommit.source_is (c : Gitea.PushedCommit) : c.source.Is c.toCommit :=
  ⟨rfl, rfl, rfl, c.author.person_signs c.time, c.committer.person_signs c.time, rfl, rfl⟩

def Gitea.PushPayload.source (p : Gitea.PushPayload) (pusher : User) : PushSource where
  commits := (p.commits.getD []).map Gitea.PushedCommit.source
  pusher := pusher
  after := p.after
  target := p.after
  newestFirst := true

theorem Gitea.PushPayload.source_makes {p : Gitea.PushPayload} {push : Push}
    (h : p.toEvent.subject = .push push) : (p.source p.pusher.toUser).Makes push := by
  cases h
  exact ⟨forall₂_map Gitea.PushedCommit.source_is _, rfl, isHead_of_newestFirst rfl rfl⟩

/-- The author stands for the committer too. One that is not told has neither a name nor a login. -/
def Bitbucket.PushedCommit.source (c : Bitbucket.PushedCommit) : CommitSource :=
  let author := (c.author.map Bitbucket.Author.person).getD { logins := [] }
  { sha := c.hash
    message := c.message
    link := c.links.html.href
    author
    committer := author
    date := c.date }

theorem Bitbucket.PushedCommit.source_is (c : Bitbucket.PushedCommit) :
    c.source.Is c.toCommit := by
  obtain ⟨hash, message, date, author, links⟩ := c
  cases author with
  | none =>
    have h := Bitbucket.Author.person_signs { raw := "", user := none } date
    exact ⟨rfl, rfl, rfl, h, h, rfl, rfl⟩
  | some author =>
    exact ⟨rfl, rfl, rfl, author.person_signs date, author.person_signs date, rfl, rfl⟩

def Bitbucket.Change.source (c : Bitbucket.Change) (new : Bitbucket.RefState) (sender : User) :
    PushSource where
  commits := c.commits.map Bitbucket.PushedCommit.source
  pusher := sender
  after := new.target.hash
  target := new.target.hash
  newestFirst := true

theorem Bitbucket.Change.source_makes (c : Bitbucket.Change) (new : Bitbucket.RefState)
    (sender : User) : (c.source new sender).Makes (c.push new sender) :=
  ⟨forall₂_map Bitbucket.PushedCommit.source_is c.commits, rfl, isHead_of_newestFirst rfl rfl⟩

def Stash.Change.source (c : Stash.Change) (sender : User) : PushSource where
  commits := []
  pusher := sender
  after := c.toHash
  target := c.toHash
  newestFirst := true

theorem Stash.Change.source_makes (c : Stash.Change) (repo : Stash.Repo) (sender : User) :
    (c.source sender).Makes (c.push repo sender) :=
  ⟨.nil, rfl, isHead_pushedBy rfl⟩

end Sources

/-- Whether the body of a named event, sent by this user, tells of a push. -/
inductive TellsPush : Provider → (event : String) → (body : List UInt8) → (sender : User) →
    PushSource → Prop
  | gitHub {body : List UInt8} {sender pusher : User} {p : GitHub.PushPayload}
      (hp : GitHub.PushPayload.shape.parse body = .ok p) (hu : p.pusher.person.IsUser pusher) :
      TellsPush .github "push" body sender (p.source pusher)
  | gitLab {event : String} {body : List UInt8} {sender : User} {p : GitLab.PushPayload}
      (he : event = "Push Hook" ∨ event = "Tag Push Hook")
      (hp : GitLab.PushPayload.shape.parse body = .ok p)
      (hk : p.kind = "push" ∨ p.kind = "tag_push") (ha : p.after ≠ GitLab.zeroSha)
      (hu : p.person.IsUser sender) :
      TellsPush .gitlab event body sender (p.source sender)
  | gitea {provider : Provider} {body : List UInt8} {sender pusher : User} {p : Gitea.PushPayload}
      (hv : provider = .gitea ∨ provider = .gogs)
      (hp : Gitea.PushPayload.shape.parse body = .ok p) (hu : p.pusher.person.IsUser pusher) :
      TellsPush provider "push" body sender (p.source pusher)
  | bitbucket {body : List UInt8} {sender : User} {p : Bitbucket.PushPayload}
      {change : Bitbucket.Change} {rest : List Bitbucket.Change} {new : Bitbucket.RefState}
      (hp : Bitbucket.PushPayload.shape.parse body = .ok p) (hc : p.push.changes = change :: rest)
      (hx : change.closed = false) (hn : change.new = some new) (hk : new.type = "branch")
      (hu : p.actor.person.IsUser sender) :
      TellsPush .bitbucket "repo:push" body sender (change.source new sender)
  | stash {body : List UInt8} {sender : User} {p : Stash.RefsPayload} {change : Stash.Change}
      {rest : List Stash.Change} (hp : Stash.RefsPayload.shape.parse body = .ok p)
      (hc : p.changes = change :: rest) (ht : change.type = "ADD" ∨ change.type = "UPDATE")
      (hk : change.ref.type = "BRANCH") (hu : p.actor.person.IsUser sender) :
      TellsPush .stash "repo:refs_changed" body sender (change.source sender)

section Subjects

variable {event : Event} {push : Push}

theorem GitHub.RefPayload.toEvent_not_push {p : GitHub.RefPayload} {action : Action}
    (h : p.toEvent action = .ok event) : event.subject ≠ .push push := by
  unfold GitHub.RefPayload.toEvent at h
  split at h
  · cases h
    exact nofun
  · cases h
    exact nofun
  · cases h

theorem GitHub.IssueCommentPayload.toEvent_not_push (p : GitHub.IssueCommentPayload) :
    p.toEvent.subject ≠ .push push := by
  unfold GitHub.IssueCommentPayload.toEvent
  dsimp only
  split <;> exact nofun

theorem GitLab.PushPayload.toEvent_push {p : GitLab.PushPayload} (h : p.toEvent = .ok event)
    (hs : event.subject = .push push) :
    (p.kind = "push" ∨ p.kind = "tag_push") ∧ p.after ≠ GitLab.zeroSha ∧ event.sender = p.sender ∧
      push = p.push := by
  unfold GitLab.PushPayload.toEvent at h
  split at h
  · cases h
    cases hs
  · cases h
    cases hs
  · next hk ha =>
    cases h
    cases hs
    exact ⟨.inl hk, beq_eq_false_iff_ne.1 ha, rfl, rfl⟩
  · next hk ha =>
    cases h
    cases hs
    exact ⟨.inr hk, beq_eq_false_iff_ne.1 ha, rfl, rfl⟩
  · cases h

theorem Gitea.RefPayload.toEvent_not_push {p : Gitea.RefPayload} {action : Action}
    (h : p.toEvent action = .ok event) : event.subject ≠ .push push := by
  unfold Gitea.RefPayload.toEvent at h
  split at h
  · cases h
    exact nofun
  · cases h
    exact nofun
  · cases h

theorem GitLab.NotePayload.toEvent_not_push {p : GitLab.NotePayload} (h : p.toEvent = .ok event) :
    event.subject ≠ .push push := by
  unfold GitLab.NotePayload.toEvent at h
  dsimp only at h
  split at h
  · split at h
    · cases h
      exact nofun
    · cases h
  · split at h
    · cases h
      exact nofun
    · cases h
  · cases h

theorem Gitea.IssueCommentPayload.toEvent_not_push (p : Gitea.IssueCommentPayload) :
    p.toEvent.subject ≠ .push push := by
  unfold Gitea.IssueCommentPayload.toEvent
  dsimp only
  split <;> exact nofun

theorem Bitbucket.Change.subject_push {change : Bitbucket.Change} {sender : User}
    (h : change.subject sender = .ok (.push push)) :
    change.closed = false ∧ ∃ new, change.new = some new ∧ new.type = "branch" ∧
      push = change.push new sender := by
  unfold Bitbucket.Change.subject at h
  split at h
  · split at h
    · cases h
    · split at h <;> cases h
  · next hx =>
    split at h
    · cases h
    · next new hn =>
      split at h
      · cases h
      · next hk =>
        cases h
        exact ⟨Bool.eq_false_iff.2 hx, new, hn, hk, rfl⟩
      · cases h

theorem Bitbucket.PushPayload.toEvent_push {p : Bitbucket.PushPayload} (h : p.toEvent = .ok event)
    (hs : event.subject = .push push) :
    event.sender = p.actor.toUser ∧ ∃ change rest, p.push.changes = change :: rest ∧
      change.subject event.sender = .ok (.push push) := by
  unfold Bitbucket.PushPayload.toEvent at h
  dsimp only at h
  split at h
  · cases h
  · next change rest hc =>
    obtain ⟨subject, hp, h⟩ := Payload.bind_eq_ok_iff.1 h
    cases h
    cases hs
    exact ⟨rfl, change, rest, hc, hp⟩

theorem Stash.Change.subject_push {change : Stash.Change} {repo : Stash.Repo} {sender : User}
    (h : change.subject repo sender = .ok (.push push)) :
    (change.type = "ADD" ∨ change.type = "UPDATE") ∧ change.ref.type = "BRANCH" ∧
      push = change.push repo sender := by
  unfold Stash.Change.subject at h
  split at h
  · cases h
  · next action ha =>
    dsimp only at h
    split at h
    · cases h
    · next hk =>
      split at h
      · cases h
      · next hd =>
        cases h
        refine ⟨?_, hk, rfl⟩
        have hm := mem_of_lookup ha
        simp only [Stash.changeTypes, List.mem_cons, Prod.mk.injEq, List.not_mem_nil] at hm
        -- A deletion is the one change that leaves nothing to push.
        rcases hm with ⟨ht, -⟩ | ⟨ht, -⟩ | ⟨-, rfl⟩ | hm
        · exact .inl ht
        · exact .inr ht
        · exact absurd rfl hd
        · cases hm
    · cases h

theorem Stash.RefsPayload.toEvent_push {p : Stash.RefsPayload} (h : p.toEvent = .ok event)
    (hs : event.subject = .push push) :
    event.sender = p.actor.toUser ∧ ∃ change rest, p.changes = change :: rest ∧
      change.subject p.repo event.sender = .ok (.push push) := by
  unfold Stash.RefsPayload.toEvent at h
  dsimp only at h
  split at h
  · cases h
  · next change rest hc =>
    obtain ⟨subject, hp, h⟩ := Payload.bind_eq_ok_iff.1 h
    cases h
    cases hs
    exact ⟨rfl, change, rest, hc, hp⟩

end Subjects

section Readings

variable {event : String} {body : List UInt8} {decoded : Decoded} {push : Push}

theorem Reading.run_perhaps_eq_ok {α : Type} {shape : Payload.Shape α}
    {toEvent : α → Except DecodeError Event} (h : (perhaps shape toEvent).run body = .ok decoded) :
    ∃ payload, shape.parse body = .ok payload ∧ toEvent payload = .ok decoded.event := by
  obtain ⟨payload, hp, hc⟩ := Reading.run_eq_ok_iff.1 h
  obtain ⟨event, he, rfl⟩ := Reading.convert_perhaps_eq_ok_iff.1 hc
  exact ⟨payload, hp, he⟩

theorem Reading.run_always_not_push {α : Type} {shape : Payload.Shape α} {toEvent : α → Event}
    (hn : ∀ payload, (toEvent payload).subject ≠ .push push)
    (h : (always shape toEvent).run body = .ok decoded) : decoded.event.subject ≠ .push push := by
  obtain ⟨payload, -, he⟩ := run_perhaps_eq_ok h
  rw [← Except.ok.inj he]
  exact hn payload

theorem GitHub.tellsPush_of_run {topic : GitHub.Topic} (ht : (event, topic) ∈ GitHub.topics)
    (h : (GitHub.reading topic).run body = .ok decoded) (hs : decoded.event.subject = .push push) :
    ∃ source, TellsPush .github event body decoded.event.sender source ∧ source.Makes push := by
  cases topic with
  | push =>
    obtain rfl : event = "push" := by simp_all [GitHub.topics]
    obtain ⟨p, hp, he⟩ := Reading.run_perhaps_eq_ok h
    rw [← Except.ok.inj he] at hs
    exact ⟨_, .gitHub hp p.pusher.person_isUser, p.source_makes hs⟩
  | create | delete =>
    obtain ⟨p, -, he⟩ := Reading.run_perhaps_eq_ok h
    exact absurd hs (GitHub.RefPayload.toEvent_not_push he)
  | issueComment =>
    exact absurd hs (Reading.run_always_not_push GitHub.IssueCommentPayload.toEvent_not_push h)
  | _ => exact absurd hs (Reading.run_always_not_push (fun _ hp => by cases hp) h)

theorem GitLab.tellsPush_of_run {topic : GitLab.Topic} (ht : (event, topic) ∈ GitLab.topics)
    (h : (GitLab.reading topic).run body = .ok decoded) (hs : decoded.event.subject = .push push) :
    ∃ source, TellsPush .gitlab event body decoded.event.sender source ∧ source.Makes push := by
  cases topic with
  | push =>
    have he : event = "Push Hook" ∨ event = "Tag Push Hook" := by simp_all [GitLab.topics]
    obtain ⟨p, hp, hc⟩ := Reading.run_perhaps_eq_ok h
    obtain ⟨hk, ha, hw, rfl⟩ := GitLab.PushPayload.toEvent_push hc hs
    rw [hw]
    exact ⟨_, .gitLab he hp hk ha p.person_isUser, p.source_makes⟩
  | note =>
    obtain ⟨p, -, he⟩ := Reading.run_perhaps_eq_ok h
    exact absurd hs (GitLab.NotePayload.toEvent_not_push he)
  | _ => exact absurd hs (Reading.run_always_not_push (fun _ hp => by cases hp) h)

theorem Gitea.tellsPush_of_run {provider : Provider} {topic : Gitea.Topic}
    (hv : provider = .gitea ∨ provider = .gogs) (ht : topic = .push → event = "push")
    (h : (Gitea.reading topic).run body = .ok decoded) (hs : decoded.event.subject = .push push) :
    ∃ source, TellsPush provider event body decoded.event.sender source ∧ source.Makes push := by
  cases topic with
  | push =>
    obtain rfl := ht rfl
    obtain ⟨p, hp, hc⟩ := Reading.run_eq_ok_iff.1 h
    rw [← Except.ok.inj hc] at hs
    exact ⟨_, .gitea hv hp p.pusher.person_isUser, p.source_makes hs⟩
  | create | delete =>
    obtain ⟨p, -, he⟩ := Reading.run_perhaps_eq_ok h
    exact absurd hs (Gitea.RefPayload.toEvent_not_push he)
  | issueComment =>
    exact absurd hs (Reading.run_always_not_push Gitea.IssueCommentPayload.toEvent_not_push h)
  | _ => exact absurd hs (Reading.run_always_not_push (fun _ hp => by cases hp) h)

theorem Bitbucket.tellsPush_of_run {topic : Bitbucket.Topic}
    (ht : (event, topic) ∈ Bitbucket.topics) (h : (Bitbucket.reading topic).run body = .ok decoded)
    (hs : decoded.event.subject = .push push) :
    ∃ source, TellsPush .bitbucket event body decoded.event.sender source ∧ source.Makes push := by
  cases topic with
  | push =>
    obtain rfl : event = "repo:push" := by simp_all [Bitbucket.topics]
    obtain ⟨p, hp, he⟩ := Reading.run_perhaps_eq_ok h
    obtain ⟨hw, change, rest, hc, hj⟩ := Bitbucket.PushPayload.toEvent_push he hs
    obtain ⟨hx, new, hn, hk, rfl⟩ := Bitbucket.Change.subject_push hj
    have hu : p.actor.person.IsUser decoded.event.sender := by
      rw [hw]
      exact p.actor.person_isUser
    exact ⟨_, .bitbucket hp hc hx hn hk hu, change.source_makes new decoded.event.sender⟩
  | _ => exact absurd hs (Reading.run_always_not_push (fun _ hp => by cases hp) h)

theorem Stash.tellsPush_of_run {topic : Stash.Topic} (ht : (event, topic) ∈ Stash.topics)
    (h : (Stash.reading topic).run body = .ok decoded) (hs : decoded.event.subject = .push push) :
    ∃ source, TellsPush .stash event body decoded.event.sender source ∧ source.Makes push := by
  cases topic with
  | refs =>
    obtain rfl : event = "repo:refs_changed" := by simp_all [Stash.topics]
    obtain ⟨p, hp, he⟩ := Reading.run_perhaps_eq_ok h
    obtain ⟨hw, change, rest, hc, hj⟩ := Stash.RefsPayload.toEvent_push he hs
    obtain ⟨ht, hk, rfl⟩ := Stash.Change.subject_push hj
    have hu : p.actor.person.IsUser decoded.event.sender := by
      rw [hw]
      exact p.actor.person_isUser
    exact ⟨_, .stash hp hc ht hk hu, change.source_makes p.repo decoded.event.sender⟩
  | _ => exact absurd hs (Reading.run_always_not_push (fun _ hp => by cases hp) h)

theorem tellsPush_of_decode {provider : Provider} {dialect : Dialect}
    (hd : provider.dialect? = some dialect) (h : dialect.decode event body = .ok decoded)
    (hs : decoded.event.subject = .push push) :
    ∃ source, TellsPush provider event body decoded.event.sender source ∧ source.Makes push := by
  obtain ⟨reading, hr, hrun⟩ := exists_run_of_decode hd h
  cases hr with
  | gitHub ht => exact GitHub.tellsPush_of_run ht hrun hs
  | gitLab ht => exact GitLab.tellsPush_of_run ht hrun hs
  | gitea ht =>
    refine Gitea.tellsPush_of_run (.inl rfl) ?_ hrun hs
    rintro rfl
    simp_all [Gitea.topics]
  | gogs ht =>
    refine Gitea.tellsPush_of_run (.inr rfl) ?_ hrun hs
    rintro rfl
    simp_all [Gogs.sharedTopics]
  | gogsPull => exact absurd hs (Reading.run_always_not_push (fun _ hp => by cases hp) hrun)
  | bitbucket ht => exact Bitbucket.tellsPush_of_run ht hrun hs
  | stash ht => exact Stash.tellsPush_of_run ht hrun hs

/-- Whatever decodes to a push, its body tells of it: the push lists the commits of the payload one by
one, each with what the payload tells of it, and ends at the commit that the rule for all dialects
chooses. -/
theorem push_of_source {provider : Provider} {dialect : Dialect}
    (hd : provider.dialect? = some dialect) (h : dialect.decode event body = .ok decoded)
    (hs : decoded.event.subject = .push push) :
    ∃ source, TellsPush provider event body decoded.event.sender source ∧ source.Makes push ∧
      (push.commits ≠ [] → source.head = none → push.commit ∈ push.commits) := by
  obtain ⟨source, ht, hm⟩ := tellsPush_of_decode hd h hs
  exact ⟨source, ht, hm, hm.isHead.mem⟩

end Readings

/-- A push that checks out the older one of the commits that it lists. -/
def olderPush : List UInt8 :=
  Text.Utf8.encode <|
    "\x7b\"object_kind\":\"push\",\"before\":\"a\",\"after\":\"c\",\"ref\":\"r\"," ++
    "\"checkout_sha\":\"b\",\"user_username\":\"u\"," ++
    "\"project\":\x7b\"id\":1,\"path_with_namespace\":\"o/n\"\x7d,\"commits\":[" ++
    "\x7b\"id\":\"b\",\"message\":\"old\",\"author\":\x7b\"name\":\"x\"\x7d\x7d," ++
    "\x7b\"id\":\"c\",\"message\":\"new\",\"author\":\x7b\"name\":\"y\"\x7d\x7d]\x7d"

def olderPushed : Push :=
  let old : Commit :=
    { sha := "b", message := "old", author := { name := "x" }, committer := { name := "x" } }
  let new : Commit :=
    { sha := "c", message := "new", author := { name := "y" }, committer := { name := "y" } }
  { ref := "r", before := "a", after := "c", compare := "/-/compare/a...c", commit := old
    commits := [old, new] }

theorem olderPush_decodes :
    GitLab.dialect.decode "Push Hook" olderPush =
      .ok { event :=
        { subject := .push olderPushed
          repo := { id := "1", owner := "o", name := "n", isPrivate := true }
          sender := { login := "u" } } } := by
  apply Payload.toOption_eq_some_iff.1
  decide +kernel

theorem olderPush_of_source :
    (∃ source, TellsPush .gitlab "Push Hook" olderPush { login := "u" } source ∧
      source.Makes olderPushed ∧ source.commits.map CommitSource.message = ["old", "new"]) ∧
    olderPushed.commit ∈ olderPushed.commits ∧ olderPushed.commit.sha = "b" := by
  have hd : Provider.gitlab.dialect? = some GitLab.dialect := rfl
  obtain ⟨source, ht, hm, hl⟩ := push_of_source hd olderPush_decodes rfl
  have hh : source.head = none := by
    generalize "Push Hook" = event at ht
    cases ht with
    | gitLab => rfl
    | gitea hv => simp at hv
  have hs : source.commits.map CommitSource.message = ["old", "new"] := by
    have hc := hm.commits
    generalize source.commits = told at hc
    obtain - | ⟨ho, - | ⟨hn, ⟨⟩⟩⟩ := hc
    simp [← ho.message_eq, ← hn.message_eq]
  exact ⟨⟨source, ht, hm, hs⟩, hl (List.cons_ne_nil _ _) hh, rfl⟩

end WebhookRelay
