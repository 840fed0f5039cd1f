import WebhookRelay.Proofs.Push

/-!
The people of an event: who sent it, who wrote what it is about, and who stands on its commits. All
of them are as the payload tells them.
-/

namespace WebhookRelay

/-- Whether the first stands on a commit as its author, and the second as its committer. -/
def StandOn (people : Person × Person) (commit : Commit) : Prop :=
  people.1.Signs commit.author ∧ people.2.Signs commit.committer

/-- The author and the committer of a commit. -/
def CommitSource.people (source : CommitSource) : Person × Person := (source.author, source.committer)

theorem CommitSource.Is.standOn {source : CommitSource} {commit : Commit} (h : source.Is commit) :
    StandOn source.people commit :=
  ⟨h.author, h.committer⟩

/-- What a payload tells of the people of an event. -/
structure People where
  sender : Person
  /-- Who wrote what the event is about, from the outermost part on. -/
  authors : List Person := []
  pusher : Person := sender
  /-- The authors and committers of the commits that are listed, in their order. -/
  commits : List (Person × Person) := []
  /-- Those of the commit that is named beside the list. -/
  head : Option (Person × Person) := none
  /-- The candidates for the owner of the repository, where it is an account. -/
  owner : Option (List String) := none

/-- Who may stand on the commit that a push ends at. -/
def People.heads (people : People) : List (Person × Person) :=
  if people.commits = [] then [(people.pusher, people.pusher)]
  else
    match people.head with
    | some head => [head]
    | none => people.commits

structure People.OnPush (people : People) (push : Push) : Prop where
  commits : List.Forall₂ StandOn people.commits push.commits
  head : ∃ pair ∈ people.heads, StandOn pair push.commit

def Subject.authors : Subject → List User
  | push _ | branch _ _ | tag _ _ => []
  | issue _ i => [i.author]
  | issueComment _ i c => [i.author, c.author]
  | pullRequest _ p => [p.author]
  | pullRequestComment _ p c => [p.author, c.author]
  | review _ p r => [p.author, r.author]

/-- The commits of a push, the one that it ends at before those that it lists. -/
def Subject.commits : Subject → List Commit
  | push p => p.commit :: p.commits
  | _ => []

def Commit.emails (commit : Commit) : List (Option String) :=
  [commit.author.email, commit.committer.email]

/-- The emails of all the people of an event. -/
def Event.emails (event : Event) : List (Option String) :=
  event.sender.email :: event.subject.authors.map User.email ++
    event.subject.commits.flatMap Commit.emails

/-- Whether the people of an event are those that its payload tells of. -/
structure Event.IsBy (event : Event) (people : People) : Prop where
  sender : people.sender.IsUser event.sender
  authors : List.Forall₂ Person.IsUser people.authors event.subject.authors
  onPush : ∀ push, event.subject = .push push → people.OnPush push
  owner : ∀ logins, people.owner = some logins → FirstFilled logins event.repo.owner

section OnPush

variable {people : People} {source : PushSource} {push : Push} {event : Event}

/-- Whoever stands on the commits of a source stands on those of the push that it makes. -/
theorem onPush_of_makes (hm : source.Makes push) (hp : people.pusher.IsUser source.pusher)
    (hc : people.commits = source.commits.map CommitSource.people)
    (hh : people.head = source.head.map CommitSource.people) : people.OnPush push := by
  have hs : List.Forall₂ StandOn people.commits push.commits := by
    rw [hc, List.forall₂_map_left_iff]
    exact hm.commits.imp fun _ _ h => h.standOn
  refine ⟨hs, ?_⟩
  unfold People.heads
  by_cases he : people.commits = []
  · rw [if_pos he]
    rw [he] at hs
    have hl : push.commits = [] := List.forall₂_nil_left_iff.1 hs
    cases hm.isHead with
    | unlisted _ _ _ _ ha hk =>
      refine ⟨_, List.mem_singleton.2 rfl, ?_⟩
      rw [StandOn, Person.Signs, Person.Signs, hk, ha]
      exact ⟨hp, hp⟩
    | supplied hn => exact absurd hl hn
    | matching _ hs => simp [hl] at hs
    | newest _ _ hf => simp [PushSource.newest?, hl] at hf
  · rw [if_neg he]
    have hl : push.commits ≠ [] := fun hl => he (List.forall₂_nil_right_iff.1 (hl ▸ hs))
    cases hn : source.head with
    | none =>
      rw [hh, hn]
      exact exists_of_mem_right hs (hm.isHead.mem hl hn)
    | some head =>
      rw [hh, hn]
      refine ⟨_, List.mem_singleton.2 rfl, ?_⟩
      cases hm.isHead with
      | unlisted he => exact absurd he hl
      | supplied _ hs hc =>
        cases hn.symm.trans hs
        exact hc.standOn
      | matching hs => cases hn.symm.trans hs
      | newest hs => cases hn.symm.trans hs

theorem Event.IsBy.emails_ne (h : event.IsBy people) : some "" ∉ event.emails := by
  unfold Event.emails
  rw [List.cons_append, List.mem_cons, List.mem_append, List.mem_map, List.mem_flatMap]
  rintro (hs | ⟨user, hu, he⟩ | ⟨commit, hc, he⟩)
  · exact h.sender.email_ne hs.symm
  · obtain ⟨person, -, hp⟩ := exists_of_mem_right h.authors hu
    exact hp.email_ne he
  · have hp : ∃ pair, StandOn pair commit := by
      unfold Subject.commits at hc
      split at hc
      · next push hs =>
        have hp := h.onPush push hs
        rcases List.mem_cons.1 hc with rfl | hc
        · obtain ⟨pair, -, hp⟩ := hp.head
          exact ⟨pair, hp⟩
        · obtain ⟨pair, -, hp⟩ := exists_of_mem_right hp.commits hc
          exact ⟨pair, hp⟩
      · cases hc
    obtain ⟨pair, ha, hc⟩ := hp
    simp only [Commit.emails, List.mem_cons, List.not_mem_nil, or_false] at he
    rcases he with he | he
    · exact ha.email_ne he.symm
    · exact hc.email_ne he.symm

end OnPush

/-- The people of an event that is no push, where all are told as accounts of one kind. -/
def People.ofAccounts {α : Type} (person : α → Person) (sender : α) (authors : List α)
    (owner : Option (List String) := none) : People where
  sender := person sender
  authors := authors.map person
  owner := owner

theorem isBy_ofAccounts {α : Type} {person : α → Person} {toUser : α → User}
    (ha : ∀ account, (person account).IsUser (toUser account)) {event : Event} {sender : α}
    {authors : List α} {owner : Option (List String)} (hs : event.sender = toUser sender)
    (hu : event.subject.authors = authors.map toUser)
    (hn : event.subject.commits = [])
    (ho : ∀ logins, owner = some logins → FirstFilled logins event.repo.owner) :
    event.IsBy (.ofAccounts person sender authors owner) := by
  refine ⟨?_, ?_, fun push hp => ?_, ho⟩
  · rw [hs]
    exact ha sender
  · rw [hu]
    exact forall₂_map ha authors
  · rw [hp] at hn
    cases hn

namespace GitHub

def PushPayload.people (p : PushPayload) : People where
  sender := p.sender.person
  pusher := p.pusher.person
  commits := (p.commits.map PushedCommit.source).map CommitSource.people
  head := (p.head.map PushedCommit.source).map CommitSource.people

def people : (topic : Topic) → (reading topic).α → People
  | .push, (p : PushPayload) => p.people
  | .create, (p : RefPayload) => .ofAccounts Account.person p.sender []
  | .delete, (p : RefPayload) => .ofAccounts Account.person p.sender []
  | .issue, (p : IssuePayload) => .ofAccounts Account.person p.sender [p.issue.user]
  | .issueComment, (p : IssueCommentPayload) =>
    .ofAccounts Account.person p.sender [p.issue.user, p.comment.user]
  | .pullRequest, (p : PullPayload) => .ofAccounts Account.person p.sender [p.pull.user]
  | .review, (p : ReviewPayload) =>
    .ofAccounts Account.person p.sender [p.pull.user, p.review.user]
  | .reviewComment, (p : PullCommentPayload) =>
    .ofAccounts Account.person p.sender [p.pull.user, p.comment.user]

theorem PushPayload.isBy (p : PushPayload) : p.toEvent.IsBy p.people := by
  refine ⟨p.sender.person_isUser, .nil, fun push hs => ?_, nofun⟩
  exact onPush_of_makes (p.source_makes hs) p.pusher.person_isUser rfl rfl

theorem RefPayload.isBy {p : RefPayload} {action : Action} {event : Event}
    (h : p.toEvent action = .ok event) :
    event.IsBy (.ofAccounts Account.person p.sender []) := by
  unfold RefPayload.toEvent at h
  split at h
  · cases h
    exact isBy_ofAccounts Account.person_isUser rfl rfl rfl nofun
  · cases h
    exact isBy_ofAccounts Account.person_isUser rfl rfl rfl nofun
  · cases h

theorem IssueCommentPayload.isBy (p : IssueCommentPayload) :
    p.toEvent.IsBy (.ofAccounts Account.person p.sender [p.issue.user, p.comment.user]) := by
  unfold IssueCommentPayload.toEvent
  split <;> exact isBy_ofAccounts Account.person_isUser rfl rfl rfl nofun

theorem isBy_of_convert {topic : Topic} {payload : (reading topic).α} {decoded : Decoded}
    (h : (reading topic).convert payload = .ok decoded) :
    decoded.event.IsBy (people topic payload) := by
  cases topic with
  | push =>
    cases h
    exact PushPayload.isBy payload
  | create | delete =>
    obtain ⟨event, he, rfl⟩ := Reading.convert_perhaps_eq_ok_iff.1 h
    exact RefPayload.isBy he
  | issueComment =>
    cases h
    exact IssueCommentPayload.isBy payload
  | issue | pullRequest | review | reviewComment =>
    cases h
    exact isBy_ofAccounts Account.person_isUser rfl rfl rfl nofun

end GitHub

namespace GitLab

def PushPayload.people (p : PushPayload) : People where
  sender := p.person
  commits := (p.commits.map PushedCommit.source).map CommitSource.people

def people : (topic : Topic) → (reading topic).α → People
  | .push, (p : PushPayload) => p.people
  | .issue, (p : IssuePayload) => .ofAccounts Account.person p.user [p.user]
  | .mergeRequest, (p : MergeRequestPayload) => .ofAccounts Account.person p.user [p.user]
  | .note, (p : NotePayload) => .ofAccounts Account.person p.user [p.user, p.user]

theorem PushPayload.isBy {p : PushPayload} {event : Event} (h : p.toEvent = .ok event) :
    event.IsBy p.people := by
  have hs : event.sender = p.sender ∧ event.subject.authors = [] := by
    unfold PushPayload.toEvent at h
    split at h <;> cases h <;> exact ⟨rfl, rfl⟩
  refine ⟨?_, ?_, fun push hs => ?_, nofun⟩
  · rw [hs.1]
    exact p.person_isUser
  · rw [hs.2]
    exact .nil
  · obtain ⟨-, -, -, rfl⟩ := PushPayload.toEvent_push h hs
    exact onPush_of_makes p.source_makes p.person_isUser rfl rfl

theorem NotePayload.isBy {p : NotePayload} {event : Event} (h : p.toEvent = .ok event) :
    event.IsBy (.ofAccounts Account.person p.user [p.user, p.user]) := by
  unfold NotePayload.toEvent at h
  dsimp only at h
  split at h
  · split at h <;> cases h
    exact isBy_ofAccounts Account.person_isUser rfl rfl rfl nofun
  · split at h <;> cases h
    exact isBy_ofAccounts Account.person_isUser rfl rfl rfl nofun
  · cases h

theorem isBy_of_convert {topic : Topic} {payload : (reading topic).α} {decoded : Decoded}
    (h : (reading topic).convert payload = .ok decoded) :
    decoded.event.IsBy (people topic payload) := by
  cases topic with
  | push =>
    obtain ⟨event, he, rfl⟩ := Reading.convert_perhaps_eq_ok_iff.1 h
    exact PushPayload.isBy he
  | note =>
    obtain ⟨event, he, rfl⟩ := Reading.convert_perhaps_eq_ok_iff.1 h
    exact NotePayload.isBy he
  | issue | mergeRequest =>
    cases h
    exact isBy_ofAccounts Account.person_isUser rfl rfl rfl nofun

end GitLab

namespace Gitea

def PushPayload.people (p : PushPayload) : People where
  sender := p.sender.person
  pusher := p.pusher.person
  commits := ((p.commits.getD []).map PushedCommit.source).map CommitSource.people
  owner := some p.repo.owner.logins

/-- The people of any payload but a push. -/
def peopleOf (repo : Repo) (sender : Account) (authors : List Account) : People :=
  .ofAccounts Account.person sender authors (some repo.owner.logins)

def people : (topic : Topic) → (reading topic).α → People
  | .push, (p : PushPayload) => p.people
  | .create, (p : RefPayload) => peopleOf p.repo p.sender []
  | .delete, (p : RefPayload) => peopleOf p.repo p.sender []
  | .issue, (p : IssuePayload) => peopleOf p.repo p.sender [p.issue.user]
  | .issueComment, (p : IssueCommentPayload) =>
    peopleOf p.repo p.sender [p.issue.user, p.comment.user]
  | .pullRequest, (p : PullPayload) => peopleOf p.repo p.sender [p.pull.user]
  | .review, (p : ReviewPayload) => peopleOf p.repo p.sender [p.pull.user, p.sender]

theorem people_owner (topic : Topic) (payload : (reading topic).α) :
    (people topic payload).owner.isSome = true := by
  cases topic <;> rfl

theorem Repo.firstFilled_owner (r : Repo) (logins : List String)
    (h : some r.owner.logins = some logins) : FirstFilled logins r.toRepository.owner := by
  cases h
  exact firstFilled_firstGiven r.owner.login r.owner.username

theorem PushPayload.isBy (p : PushPayload) : p.toEvent.IsBy p.people := by
  refine ⟨p.sender.person_isUser, .nil, fun push hs => ?_, p.repo.firstFilled_owner⟩
  exact onPush_of_makes (p.source_makes hs) p.pusher.person_isUser rfl rfl

theorem isBy_peopleOf {event : Event} {repo : Repo} {sender : Account} {authors : List Account}
    (hr : event.repo = repo.toRepository) (hs : event.sender = sender.toUser)
    (hu : event.subject.authors = authors.map Account.toUser)
    (hn : event.subject.commits = []) : event.IsBy (peopleOf repo sender authors) :=
  isBy_ofAccounts Account.person_isUser hs hu hn (hr ▸ repo.firstFilled_owner)

theorem RefPayload.isBy {p : RefPayload} {action : Action} {event : Event}
    (h : p.toEvent action = .ok event) : event.IsBy (peopleOf p.repo p.sender []) := by
  unfold RefPayload.toEvent at h
  split at h
  · cases h
    exact isBy_peopleOf rfl rfl rfl rfl
  · cases h
    exact isBy_peopleOf rfl rfl rfl rfl
  · cases h

theorem IssueCommentPayload.isBy (p : IssueCommentPayload) :
    p.toEvent.IsBy (peopleOf p.repo p.sender [p.issue.user, p.comment.user]) := by
  unfold IssueCommentPayload.toEvent
  split <;> exact isBy_peopleOf rfl rfl rfl rfl

theorem isBy_of_convert {topic : Topic} {payload : (reading topic).α} {decoded : Decoded}
    (h : (reading topic).convert payload = .ok decoded) :
    decoded.event.IsBy (people topic payload) := by
  cases topic with
  | push =>
    cases h
    exact PushPayload.isBy payload
  | create | delete =>
    obtain ⟨event, he, rfl⟩ := Reading.convert_perhaps_eq_ok_iff.1 h
    exact RefPayload.isBy he
  | issueComment =>
    cases h
    exact IssueCommentPayload.isBy payload
  | issue | pullRequest | review =>
    cases h
    exact isBy_peopleOf rfl rfl rfl rfl

end Gitea

def Gogs.people (p : Gogs.PullPayload) : People := Gitea.peopleOf p.repo p.sender [p.pull.user]

theorem Gogs.isBy_of_convert {payload : Gogs.pullReading.α} {decoded : Decoded}
    (h : Gogs.pullReading.convert payload = .ok decoded) :
    decoded.event.IsBy (Gogs.people payload) := by
  cases h
  exact Gitea.isBy_peopleOf rfl rfl rfl rfl

namespace Bitbucket

/-- Of several changes the first is told. -/
def PushPayload.people (p : PushPayload) : People where
  sender := p.actor.person
  commits :=
    let listed := (p.push.changes.head?.map Change.commits).getD []
    (listed.map PushedCommit.source).map CommitSource.people

def people : (topic : Topic) → (reading topic).α → People
  | .push, (p : PushPayload) => p.people
  | .pullRequest _, (p : PullPayload) => .ofAccounts Account.person p.actor [p.pull.author]
  | .pullRequestComment _, (p : PullCommentPayload) =>
    .ofAccounts Account.person p.actor [p.pull.author, p.comment.user]

theorem Change.subject_authors {change : Change} {sender : User} {subject : Subject}
    (h : change.subject sender = .ok subject) : subject.authors = [] := by
  unfold Change.subject at h
  split at h
  · split at h
    · cases h
    · split at h <;> cases h <;> rfl
  · split at h
    · cases h
    · split at h <;> cases h <;> rfl

theorem PushPayload.isBy {p : PushPayload} {event : Event} (h : p.toEvent = .ok event) :
    event.IsBy p.people := by
  unfold PushPayload.toEvent at h
  dsimp only at h
  split at h
  · cases h
  · next change rest hc =>
    obtain ⟨subject, hp, h⟩ := Payload.bind_eq_ok_iff.1 h
    cases h
    refine ⟨p.actor.person_isUser, ?_, fun push hs => ?_, nofun⟩
    · rw [Change.subject_authors hp]
      exact .nil
    · cases hs
      obtain ⟨-, new, -, -, rfl⟩ := Change.subject_push hp
      refine onPush_of_makes (change.source_makes new p.actor.toUser) p.actor.person_isUser ?_ rfl
      unfold people
      rw [hc]
      rfl

theorem isBy_of_convert {topic : Topic} {payload : (reading topic).α} {decoded : Decoded}
    (h : (reading topic).convert payload = .ok decoded) :
    decoded.event.IsBy (people topic payload) := by
  cases topic with
  | push =>
    obtain ⟨event, he, rfl⟩ := Reading.convert_perhaps_eq_ok_iff.1 h
    exact PushPayload.isBy he
  | pullRequest | pullRequestComment =>
    cases h
    exact isBy_ofAccounts Account.person_isUser rfl rfl rfl nofun

end Bitbucket

namespace Stash

/-- No commits are listed. -/
def people : (topic : Topic) → (reading topic).α → People
  | .refs, (p : RefsPayload) => { sender := p.actor.person }
  | .pullRequest _, (p : PullPayload) => .ofAccounts Account.person p.actor [p.pull.author.user]
  | .pullRequestComment _, (p : PullCommentPayload) =>
    .ofAccounts Account.person p.actor [p.pull.author.user, p.comment.author]

theorem Change.subject_authors {change : Change} {repo : Repo} {sender : User} {subject : Subject}
    (h : change.subject repo sender = .ok subject) : subject.authors = [] := by
  unfold Change.subject at h
  split at h
  · cases h
  · dsimp only at h
    split at h
    · cases h
      rfl
    · split at h <;> cases h <;> rfl
    · cases h

theorem RefsPayload.isBy {p : RefsPayload} {event : Event} (h : p.toEvent = .ok event) :
    event.IsBy { sender := p.actor.person } := by
  unfold RefsPayload.toEvent at h
  dsimp only at h
  split at h
  · cases h
  · next change rest hc =>
    obtain ⟨subject, hp, h⟩ := Payload.bind_eq_ok_iff.1 h
    cases h
    refine ⟨p.actor.person_isUser, ?_, fun push hs => ?_, nofun⟩
    · rw [Change.subject_authors hp]
      exact .nil
    · cases hs
      obtain ⟨-, -, rfl⟩ := Change.subject_push hp
      exact onPush_of_makes (change.source_makes p.repo p.actor.toUser) p.actor.person_isUser rfl rfl

theorem isBy_of_convert {topic : Topic} {payload : (reading topic).α} {decoded : Decoded}
    (h : (reading topic).convert payload = .ok decoded) :
    decoded.event.IsBy (people topic payload) := by
  cases topic with
  | refs =>
    obtain ⟨event, he, rfl⟩ := Reading.convert_perhaps_eq_ok_iff.1 h
    exact RefsPayload.isBy he
  | pullRequest | pullRequestComment =>
    cases h
    exact isBy_ofAccounts Account.person_isUser rfl rfl rfl nofun

end Stash

/-- Whether the body of a named event tells of these people. -/
inductive TellsPeople : Provider → (event : String) → (body : List UInt8) → People → Prop
  | gitHub {event : String} {topic : GitHub.Topic} {body : List UInt8}
      {payload : (GitHub.reading topic).α} (ht : (event, topic) ∈ GitHub.topics)
      (hp : (GitHub.reading topic).shape.parse body = .ok payload) :
      TellsPeople .github event body (GitHub.people topic payload)
  | gitLab {event : String} {topic : GitLab.Topic} {body : List UInt8}
      {payload : (GitLab.reading topic).α} (ht : (event, topic) ∈ GitLab.topics)
      (hp : (GitLab.reading topic).shape.parse body = .ok payload) :
      TellsPeople .gitlab event body (GitLab.people topic payload)
  | gitea {event : String} {topic : Gitea.Topic} {body : List UInt8}
      {payload : (Gitea.reading topic).α} (ht : (event, topic) ∈ Gitea.topics)
      (hp : (Gitea.reading topic).shape.parse body = .ok payload) :
      TellsPeople .gitea event body (Gitea.people topic payload)
  | gogs {event : String} {topic : Gitea.Topic} {body : List UInt8}
      {payload : (Gitea.reading topic).α} (ht : (event, topic) ∈ Gogs.sharedTopics)
      (hp : (Gitea.reading topic).shape.parse body = .ok payload) :
      TellsPeople .gogs event body (Gitea.people topic payload)
  | gogsPull {body : List UInt8} {payload : Gogs.PullPayload}
      (hp : Gogs.PullPayload.shape.parse body = .ok payload) :
      TellsPeople .gogs "pull_request" body (Gogs.people payload)
  | bitbucket {event : String} {topic : Bitbucket.Topic} {body : List UInt8}
      {payload : (Bitbucket.reading topic).α} (ht : (event, topic) ∈ Bitbucket.topics)
      (hp : (Bitbucket.reading topic).shape.parse body = .ok payload) :
      TellsPeople .bitbucket event body (Bitbucket.people topic payload)
  | stash {event : String} {topic : Stash.Topic} {body : List UInt8}
      {payload : (Stash.reading topic).α} (ht : (event, topic) ∈ Stash.topics)
      (hp : (Stash.reading topic).shape.parse body = .ok payload) :
      TellsPeople .stash event body (Stash.people topic payload)

theorem TellsPeople.owner_isSome {provider : Provider} {event : String} {body : List UInt8}
    {people : People} (h : TellsPeople provider event body people)
    (hv : provider = .gitea ∨ provider = .gogs) : people.owner.isSome = true := by
  cases h with
  | gitea | gogs => exact Gitea.people_owner _ _
  | gogsPull => rfl
  | _ => simp at hv

theorem tellsPeople_of_decode {provider : Provider} {dialect : Dialect}
    (hd : provider.dialect? = some dialect) {event : String} {body : List UInt8} {decoded : Decoded}
    (h : dialect.decode event body = .ok decoded) :
    ∃ people, TellsPeople provider event body people ∧ decoded.event.IsBy people := by
  obtain ⟨reading, hr, payload, hp, hc⟩ := handled_of_decode hd h
  cases hr with
  | gitHub ht => exact ⟨_, .gitHub ht hp, GitHub.isBy_of_convert hc⟩
  | gitLab ht => exact ⟨_, .gitLab ht hp, GitLab.isBy_of_convert hc⟩
  | gitea ht => exact ⟨_, .gitea ht hp, Gitea.isBy_of_convert hc⟩
  | gogs ht => exact ⟨_, .gogs ht hp, Gitea.isBy_of_convert hc⟩
  | gogsPull => exact ⟨_, .gogsPull hp, Gogs.isBy_of_convert hc⟩
  | bitbucket ht => exact ⟨_, .bitbucket ht hp, Bitbucket.isBy_of_convert hc⟩
  | stash ht => exact ⟨_, .stash ht hp, Stash.isBy_of_convert hc⟩

/-- Whatever decodes to an event, its people are those that the payload tells of, each called by
their first login that is not empty, and no email is given but empty. -/
theorem people_of_decode {provider : Provider} {dialect : Dialect}
    (hd : provider.dialect? = some dialect) {event : String} {body : List UInt8} {decoded : Decoded}
    (h : dialect.decode event body = .ok decoded) :
    some "" ∉ decoded.event.emails ∧
      ∃ people, TellsPeople provider event body people ∧ decoded.event.IsBy people ∧
        (provider = .gitea ∨ provider = .gogs →
          ∃ logins, people.owner = some logins ∧
            FirstFilled logins decoded.event.repo.owner) := by
  obtain ⟨people, ht, hb⟩ := tellsPeople_of_decode hd h
  refine ⟨hb.emails_ne, people, ht, hb, fun hv => ?_⟩
  obtain ⟨logins, ho⟩ := Option.isSome_iff_exists.1 (ht.owner_isSome hv)
  exact ⟨logins, ho, hb.owner logins ho⟩

/-- A push whose accounts have an empty login or none, and empty emails. -/
def namelessPush : List UInt8 :=
  Text.Utf8.encode <|
    "\x7b\"ref\":\"r\",\"before\":\"a\",\"after\":\"b\"," ++
    "\"repository\":\x7b\"id\":1,\"owner\":\x7b\"login\":\"\",\"username\":\"o\"\x7d," ++
    "\"name\":\"n\"\x7d," ++
    "\"pusher\":\x7b\x7d,\"sender\":\x7b\"username\":\"u\",\"email\":\"\"\x7d," ++
    "\"commits\":[\x7b\"id\":\"b\",\"message\":\"m\",\"author\":\x7b\"email\":\"\"\x7d," ++
    "\"committer\":\x7b\"email\":\"e\",\"username\":\"c\"\x7d\x7d]\x7d"

def namelessEvent : Event :=
  let commit : Commit :=
    { sha := "b", message := "m", committer := { login := "c", email := some "e" } }
  let push : Push :=
    { ref := "r", before := "a", after := "b", compare := "", commit, commits := [commit] }
  { subject := .push push
    repo := { id := "1", owner := "o", name := "n" }
    sender := { login := "u" } }

theorem namelessPush_decodes :
    Gitea.dialect.decode "push" namelessPush = .ok { event := namelessEvent } := by
  apply Payload.toOption_eq_some_iff.1
  decide +kernel

theorem namelessPush_people :
    namelessEvent.emails = [none, none, some "e", none, some "e"] ∧ some "" ∉ namelessEvent.emails ∧
      ∃ people logins, TellsPeople .gitea "push" namelessPush people ∧
        namelessEvent.IsBy people ∧ people.owner = some logins ∧ FirstFilled logins "o" := by
  have hd : Provider.gitea.dialect? = some Gitea.dialect := rfl
  obtain ⟨hn, people, ht, hb, ho⟩ := people_of_decode hd namelessPush_decodes
  obtain ⟨logins, ho, hf⟩ := ho (.inl rfl)
  exact ⟨rfl, hn, people, logins, ht, hb, ho, hf⟩

end WebhookRelay
