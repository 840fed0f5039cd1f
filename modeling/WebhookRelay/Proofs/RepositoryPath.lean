import WebhookRelay.Proofs.Change
import WebhookRelay.Proofs.Note
import WebhookRelay.Proofs.PushKind
import WebhookRelay.Receiver

/-!
Two providers tell the path of a repository and not its owner and its name. The path is split at a
slash and put together again, which gives the same text for the rules that choose the key.
-/

namespace WebhookRelay

/-- Whether a repository is called by a path, which without a slash gets one in front. -/
structure Repository.CalledBy (repo : Repository) (path : String) : Prop where
  of_slash : '/' ∈ path.toList → repo.fullName = path
  of_no_slash : '/' ∉ path.toList →
    repo.owner = "" ∧ repo.name = path ∧ repo.fullName = "/" ++ path

def GitLab.pathOf : (topic : GitLab.Topic) → (GitLab.reading topic).α → String
  | .push, (p : GitLab.PushPayload) => p.project.path
  | .issue, (p : GitLab.IssuePayload) => p.project.path
  | .mergeRequest, (p : GitLab.MergeRequestPayload) => p.project.path
  | .note, (p : GitLab.NotePayload) => p.project.path

def Bitbucket.pathOf : (topic : Bitbucket.Topic) → (Bitbucket.reading topic).α → String
  | .push, (p : Bitbucket.PushPayload) => p.repo.fullName
  | .pullRequest _, (p : Bitbucket.PullPayload) => p.repo.fullName
  | .pullRequestComment _, (p : Bitbucket.PullCommentPayload) => p.repo.fullName

/-- What the payload of an event tells as the path of its repository. -/
inductive TellsPath : Provider → (event : String) → (body : List UInt8) → (path : String) → Prop
  | gitLab {event : String} {body : List UInt8} {topic : GitLab.Topic}
      {payload : (GitLab.reading topic).α} (ht : (event, topic) ∈ GitLab.topics)
      (hp : (GitLab.reading topic).shape.parse body = .ok payload) :
      TellsPath .gitlab event body (GitLab.pathOf topic payload)
  | bitbucket {event : String} {body : List UInt8} {topic : Bitbucket.Topic}
      {payload : (Bitbucket.reading topic).α} (ht : (event, topic) ∈ Bitbucket.topics)
      (hp : (Bitbucket.reading topic).shape.parse body = .ok payload) :
      TellsPath .bitbucket event body (Bitbucket.pathOf topic payload)

/-- Whether a repository is called by a path and has the parts that its provider makes of it. -/
inductive MadeOfPath (path : String) : Provider → Repository → Prop
  | gitLab {repo : Repository} (hc : repo.CalledBy path) (hn : '/' ∉ repo.name.toList) :
      MadeOfPath path .gitlab repo
  | bitbucket {repo : Repository} (hc : repo.CalledBy path) (ho : '/' ∉ repo.owner.toList)
      (hl : repo.clone = "https://bitbucket.org/" ++ path ++ ".git")
      (hs : repo.cloneSsh = "git@bitbucket.org:" ++ path ++ ".git") :
      MadeOfPath path .bitbucket repo

section Split

variable {path : String} {before after : List Char}

theorem joined_eq (h : path.toList = before ++ '/' :: after) :
    String.ofList before ++ "/" ++ String.ofList after = path := by
  simp [← String.toList_inj, h]

theorem calledBy_of_join {repo : Repository} (h : path.toList = before ++ '/' :: after)
    (ho : repo.owner = String.ofList before) (hn : repo.name = String.ofList after) :
    repo.CalledBy path := by
  constructor
  · intro _
    rw [Repository.fullName, ho, hn, joined_eq h]
  · intro hm
    refine absurd ?_ hm
    rw [h]
    exact List.mem_append_right _ List.mem_cons_self

theorem calledBy_of_no_slash {repo : Repository} (h : '/' ∉ path.toList) (ho : repo.owner = "")
    (hn : repo.name = path) : repo.CalledBy path := by
  refine ⟨fun hm => absurd hm h, fun _ => ⟨ho, hn, ?_⟩⟩
  rw [Repository.fullName, ho, hn]
  rfl

end Split

/-- The path is split at its last slash. -/
theorem GitLab.Project.madeOfPath (p : GitLab.Project) :
    MadeOfPath p.path .gitlab p.toRepository := by
  have hs : (p.toRepository.owner, p.toRepository.name) = GitLab.splitPath p.path := rfl
  unfold GitLab.splitPath at hs
  split at hs
  · next before after h =>
    obtain ⟨ho, hn⟩ := Prod.mk.inj hs
    obtain ⟨hp, hm⟩ := Text.splitLast?_eq_some_iff.1 h
    refine .gitLab (calledBy_of_join hp ho hn) ?_
    rw [hn, String.toList_ofList]
    exact hm
  · next h =>
    obtain ⟨ho, hn⟩ := Prod.mk.inj hs
    have hm := Text.splitLast?_eq_none_iff.1 h
    refine .gitLab (calledBy_of_no_slash hm ho hn) ?_
    rw [hn]
    exact hm

/-- The path is split at its first slash. -/
theorem Bitbucket.Repo.madeOfPath (r : Bitbucket.Repo) :
    MadeOfPath r.fullName .bitbucket r.toRepository := by
  have hs : (r.toRepository.owner, r.toRepository.name) = Bitbucket.splitPath r.fullName := rfl
  unfold Bitbucket.splitPath at hs
  split at hs
  · next before after h =>
    obtain ⟨ho, hn⟩ := Prod.mk.inj hs
    obtain ⟨hp, hm⟩ := Text.splitFirst?_eq_some_iff.1 h
    refine .bitbucket (calledBy_of_join hp ho hn) ?_ rfl rfl
    rw [ho, String.toList_ofList]
    exact hm
  · next h =>
    obtain ⟨ho, hn⟩ := Prod.mk.inj hs
    have hm := Text.splitFirst?_eq_none_iff.1 h
    refine .bitbucket (calledBy_of_no_slash hm ho hn) ?_ rfl rfl
    rw [ho]
    exact List.not_mem_nil

section Convert

variable {decoded : Decoded}

theorem repo_of_map {result : Except DecodeError Subject} {repo : Repository} {sender : User}
    {event : Event}
    (h : (result.map fun subject => ({ subject, repo, sender } : Event)) = .ok event) :
    event.repo = repo := by
  cases result with
  | error cause => cases h
  | ok subject =>
    cases h
    rfl

theorem GitLab.madeOfPath_of_convert {topic : GitLab.Topic} {payload : (GitLab.reading topic).α}
    (h : (GitLab.reading topic).convert payload = .ok decoded) :
    MadeOfPath (GitLab.pathOf topic payload) .gitlab decoded.event.repo := by
  cases topic with
  | push =>
    obtain ⟨event, he, rfl⟩ := Reading.convert_perhaps_eq_ok_iff.1 h
    obtain ⟨result, -, ht⟩ := GitLab.PushPayload.exists_tellsKind payload
    rw [repo_of_map (ht.symm.trans he)]
    exact GitLab.Project.madeOfPath _
  | note =>
    obtain ⟨event, he, rfl⟩ := Reading.convert_perhaps_eq_ok_iff.1 h
    obtain ⟨result, -, ht⟩ := GitLab.NotePayload.exists_tells payload
    rw [repo_of_map (ht.symm.trans he)]
    exact GitLab.Project.madeOfPath _
  | issue | mergeRequest =>
    cases h
    exact GitLab.Project.madeOfPath _

theorem Bitbucket.madeOfPath_of_convert {topic : Bitbucket.Topic}
    {payload : (Bitbucket.reading topic).α}
    (h : (Bitbucket.reading topic).convert payload = .ok decoded) :
    MadeOfPath (Bitbucket.pathOf topic payload) .bitbucket decoded.event.repo := by
  cases topic with
  | push =>
    obtain ⟨event, he, rfl⟩ := Reading.convert_perhaps_eq_ok_iff.1 h
    rw [repo_of_map ((Bitbucket.PushPayload.toEvent_eq payload).symm.trans he)]
    exact Bitbucket.Repo.madeOfPath _
  | pullRequest action | pullRequestComment action =>
    cases h
    exact Bitbucket.Repo.madeOfPath _

end Convert

/-- A repository is called by the path that its payload tells. So with a slash in it the rules are
asked about just that path. -/
theorem repository_called_by_path :
    (∀ p : GitLab.Project, MadeOfPath p.path .gitlab p.toRepository) ∧
    (∀ r : Bitbucket.Repo, MadeOfPath r.fullName .bitbucket r.toRepository) ∧
    ∀ provider dialect, provider = .gitlab ∨ provider = .bitbucket →
      provider.dialect? = some dialect → ∀ event body decoded,
      dialect.decode event body = .ok decoded →
      ∃ path, TellsPath provider event body path ∧
        MadeOfPath path provider decoded.event.repo ∧
        ('/' ∈ path.toList → ∀ rules, Receiver.resolver rules provider decoded.event =
          .ok (Rule.keyFor rules provider path)) := by
  refine ⟨GitLab.Project.madeOfPath, Bitbucket.Repo.madeOfPath, ?_⟩
  intro provider dialect hv hd event body decoded h
  have hkey (path : String) (hc : decoded.event.repo.CalledBy path) (hs : '/' ∈ path.toList)
      (rules : List Rule) : Receiver.resolver rules provider decoded.event =
        .ok (Rule.keyFor rules provider path) := by
    rw [Receiver.resolver, hc.of_slash hs]
  obtain ⟨reading, hr, payload, hp, hc⟩ := handled_of_decode hd h
  cases hr with
  | gitLab ht =>
    have hm := GitLab.madeOfPath_of_convert hc
    refine ⟨_, .gitLab ht hp, hm, hkey _ ?_⟩
    cases hm with
    | gitLab hc hn => exact hc
  | bitbucket ht =>
    have hm := Bitbucket.madeOfPath_of_convert hc
    refine ⟨_, .bitbucket ht hp, hm, hkey _ ?_⟩
    cases hm with
    | bitbucket hc ho hl hs => exact hc
  | gitHub | gitea | gogs | gogsPull | stash => simp at hv

/-- An issue of a project that is in a subgroup. -/
def subgroupIssue : List UInt8 :=
  ["\x7b\"user\":\x7b\"username\":\"u\"\x7d,", "\"project\":\x7b\"id\":1,",
    "\"path_with_namespace\":\"a/b/c\"\x7d,", "\"object_attributes\":\x7b\"iid\":1,",
    "\"title\":\"\",\"state\":\"opened\"\x7d\x7d"].flatMap Payload.ascii

theorem subgroupIssue_parses : ∃ p, GitLab.IssuePayload.shape.parse subgroupIssue = .ok p ∧
    p.project.path = "a/b/c" := by
  have h : (GitLab.IssuePayload.shape.parse subgroupIssue).toOption.map (·.project.path) =
      some "a/b/c" := by decide +kernel
  obtain ⟨p, hp, hn⟩ := Option.map_eq_some_iff.1 h
  exact ⟨p, Payload.toOption_eq_some_iff.1 hp, hn⟩

theorem path_of_subgroupIssue {path : String}
    (h : TellsPath .gitlab "Issue Hook" subgroupIssue path) : path = "a/b/c" := by
  obtain ⟨p, hp, hn⟩ := subgroupIssue_parses
  cases h with
  | @gitLab _ _ topic _ ht hparse =>
    obtain rfl : topic = .issue := by simpa [GitLab.topics] using ht
    cases hparse.symm.trans hp
    exact hn

theorem subgroupIssue_called_by_path :
    ∃ decoded, GitLab.dialect.decode "Issue Hook" subgroupIssue = .ok decoded ∧
      decoded.event.repo.fullName = "a/b/c" ∧ '/' ∉ decoded.event.repo.name.toList ∧
      ∀ rules, Receiver.resolver rules .gitlab decoded.event =
        .ok (Rule.keyFor rules .gitlab "a/b/c") := by
  obtain ⟨p, hp, -⟩ := subgroupIssue_parses
  have hd : Provider.gitlab.dialect? = some GitLab.dialect := rfl
  have hr : Provider.gitlab.reading? "Issue Hook" = some (GitLab.reading .issue) := rfl
  have h : GitLab.dialect.decode "Issue Hook" subgroupIssue = .ok { event := p.toEvent } :=
    decode_of_parse hd hr hp
  obtain ⟨path, hpath, hm, hkey⟩ := repository_called_by_path.2.2 _ _ (.inl rfl) hd _ _ _ h
  obtain rfl := path_of_subgroupIssue hpath
  have hs : '/' ∈ "a/b/c".toList := by decide
  cases hm with
  | gitLab hc hn => exact ⟨_, h, hc.of_slash hs, hn, hkey hs⟩

end WebhookRelay
