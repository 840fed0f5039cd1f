import Mathlib.Data.Option.Basic
import WebhookRelay.Proofs.Push
import WebhookRelay.Proofs.Record

/-!
The dates of an event that was decoded were read from its payload.
-/

namespace WebhookRelay

open Payload

/-- Whether the date that a payload tells of a commit is one that is read. -/
def CommitSource.Dated (source : CommitSource) : Prop := ∀ t ∈ source.date, t.Readable

/-- Whether all commits that a payload tells of have dates that are read. -/
structure PushSource.Dated (source : PushSource) : Prop where
  listed : ∀ c ∈ source.commits, c.Dated
  head : ∀ c ∈ source.head, c.Dated

section Sources

theorem Commit.dated_of_date {commit : Commit} {date : Option Timestamp}
    (hd : ∀ t ∈ date, t.Readable) (ha : commit.author.date = date)
    (hc : commit.committer.date = date) : commit.Dated := by
  intro t ht
  rw [Commit.dates, ha, hc, List.mem_append, or_self, Option.mem_toList] at ht
  exact hd t ht

theorem CommitSource.Is.dated {source : CommitSource} {commit : Commit} (h : source.Is commit)
    (hd : source.Dated) : commit.Dated :=
  Commit.dated_of_date hd h.author_date_eq h.committer_date_eq

theorem GitHub.PushedCommit.dated {c : GitHub.PushedCommit}
    (h : GitHub.PushedCommit.shape.Range c) : c.source.Dated := by
  obtain ⟨_, -, _, -, time, ht, _, -, _, -, _, -, rfl⟩ := h
  rintro t ⟨⟩
  exact ht

theorem GitLab.PushedCommit.dated {c : GitLab.PushedCommit}
    (h : GitLab.PushedCommit.shape.Range c) : c.source.Dated := by
  obtain ⟨_, -, _, -, time, ht, _, -, _, -, rfl⟩ := h
  exact ht

theorem Gitea.PushedCommit.dated {c : Gitea.PushedCommit}
    (h : Gitea.PushedCommit.shape.Range c) : c.source.Dated := by
  obtain ⟨_, -, _, -, _, -, _, -, _, -, time, ht, rfl⟩ := h
  exact ht

theorem Bitbucket.PushedCommit.dated {c : Bitbucket.PushedCommit}
    (h : Bitbucket.PushedCommit.shape.Range c) : c.source.Dated := by
  obtain ⟨_, -, _, -, time, ht, _, -, _, -, rfl⟩ := h
  exact ht

theorem GitHub.PushPayload.commits_range {p : GitHub.PushPayload}
    (h : GitHub.PushPayload.shape.Range p) :
    (∀ c ∈ p.commits, GitHub.PushedCommit.shape.Range c) ∧
      ∀ c ∈ p.head, GitHub.PushedCommit.shape.Range c := by
  obtain ⟨_, -, _, -, _, -, _, -, commits, hc, head, hh, _, -, _, -, _, -, rfl⟩ := h
  exact ⟨fun c hm => hc c hm, fun c hm => hh c hm⟩

theorem GitLab.PushPayload.commits_range {p : GitLab.PushPayload}
    (h : GitLab.PushPayload.shape.Range p) :
    ∀ c ∈ p.commits, GitLab.PushedCommit.shape.Range c := by
  obtain ⟨_, -, _, -, _, -, _, -, _, -, _, -, _, -, _, -, _, -, _, -, commits, hc, rfl⟩ := h
  intro c hm
  rcases hc with rfl | hc
  · cases hm
  · exact hc c hm

theorem Gitea.PushPayload.commits_range {p : Gitea.PushPayload}
    (h : Gitea.PushPayload.shape.Range p) :
    ∀ c ∈ p.commits.getD [], Gitea.PushedCommit.shape.Range c := by
  obtain ⟨_, -, _, -, _, -, _, -, _, -, commits, hc, _, -, _, -, _, -, rfl⟩ := h
  intro c hm
  cases commits with
  | none => cases hm
  | some commits => exact hc commits rfl c hm

theorem Bitbucket.PushPayload.commits_range {p : Bitbucket.PushPayload}
    (h : Bitbucket.PushPayload.shape.Range p) :
    ∀ change ∈ p.push.changes, ∀ c ∈ change.commits, Bitbucket.PushedCommit.shape.Range c := by
  obtain ⟨_, -, _, -, _, ⟨changes, hp, rfl⟩, rfl⟩ := h
  intro change hm c hc
  rcases hp with rfl | hp
  · cases hm
  · obtain ⟨_, -, _, -, _, -, _, -, commits, hr, _, -, rfl⟩ := hp change hm
    rcases hr with rfl | hr
    · cases hc
    · exact hr c hc

theorem GitHub.PushPayload.source_dated {p : GitHub.PushPayload}
    (h : GitHub.PushPayload.shape.Range p) (pusher : User) : (p.source pusher).Dated := by
  obtain ⟨hc, hh⟩ := commits_range h
  refine ⟨List.forall_mem_map.2 fun c hm => GitHub.PushedCommit.dated (hc c hm), fun c hm => ?_⟩
  obtain ⟨head, hd, rfl⟩ : ∃ head ∈ p.head, head.source = c := Option.mem_map.1 hm
  exact GitHub.PushedCommit.dated (hh head hd)

/-- Where no head is named beside the list, the commits listed are all that count. -/
theorem PushSource.dated_of_map {α : Type} {source : PushSource} {toSource : α → CommitSource}
    {listed : List α} (hl : source.commits = listed.map toSource) (hh : source.head = none)
    (hc : ∀ a ∈ listed, (toSource a).Dated) : source.Dated := by
  refine ⟨?_, fun c hm => ?_⟩
  · rw [hl]
    exact List.forall_mem_map.2 hc
  · rw [hh] at hm
    cases hm

end Sources

theorem TellsPush.dated {provider : Provider} {event : String} {body : List UInt8} {sender : User}
    {source : PushSource} (h : TellsPush provider event body sender source) : source.Dated := by
  cases h with
  | gitHub hp => exact GitHub.PushPayload.source_dated (Shape.range_of_parse hp) _
  | gitLab _ hp =>
    have hr := GitLab.PushPayload.commits_range (Shape.range_of_parse hp)
    exact PushSource.dated_of_map rfl rfl fun c hm => GitLab.PushedCommit.dated (hr c hm)
  | gitea _ hp =>
    have hr := Gitea.PushPayload.commits_range (Shape.range_of_parse hp)
    exact PushSource.dated_of_map rfl rfl fun c hm => Gitea.PushedCommit.dated (hr c hm)
  | bitbucket hp hc =>
    have hr := Bitbucket.PushPayload.commits_range (Shape.range_of_parse hp)
    rw [hc] at hr
    have hr := hr _ List.mem_cons_self
    exact PushSource.dated_of_map rfl rfl fun c hm => Bitbucket.PushedCommit.dated (hr c hm)
  | stash => refine ⟨fun c hm => ?_, fun c hm => ?_⟩ <;> cases hm

/-- A commit that stands for an empty push has no date. Any other one is told by the payload. -/
theorem PushSource.Makes.dated {source : PushSource} {push : Push} (h : source.Makes push)
    (hd : source.Dated) : ∀ c ∈ push.commit :: push.commits, c.Dated := by
  have hl : ∀ c ∈ push.commits, c.Dated := by
    intro c hc
    obtain ⟨told, ht, hs⟩ := exists_of_mem_right h.commits hc
    exact hs.dated (hd.listed told ht)
  refine List.forall_mem_cons.2 ⟨?_, hl⟩
  cases h.isHead with
  | unlisted _ _ _ _ ha hc =>
    have hn : ∀ t ∈ (none : Option Timestamp), t.Readable := nofun
    exact Commit.dated_of_date hn (by rw [ha]) (by rw [hc, ha])
  | supplied _ hh hs => exact hs.dated (hd.head _ hh)
  | matching _ he =>
    refine hl _ ?_
    rw [he]
    exact List.mem_append_right _ List.mem_cons_self
  | newest _ _ hf => exact hl _ (mem_of_newest? hf)

/-- All dates of an event that is decoded are such as are read. -/
theorem dated_of_decode {provider : Provider} {dialect : Dialect} {event : String}
    {body : List UInt8} {decoded : Decoded} (hd : provider.dialect? = some dialect)
    (h : dialect.decode event body = .ok decoded) : decoded.event.Dated := by
  obtain ⟨⟨subject, repo, sender⟩, secret⟩ := decoded
  cases subject with
  | push push =>
    obtain ⟨source, ht, hm⟩ := tellsPush_of_decode hd h rfl
    exact Event.dated_push_iff.2 (hm.dated ht.dated)
  | _ => exact fun _ h => nomatch h

end WebhookRelay
