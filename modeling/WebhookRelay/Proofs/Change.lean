import WebhookRelay.Proofs.Payload.Exchange
import WebhookRelay.Proofs.Push
import WebhookRelay.Proofs.UnknownEvent

/-!
What Bitbucket and Bitbucket Server tell of the changes of references that they list: the first
change decides alone, by its flags, the kind of its reference and what it was and is.
-/

namespace WebhookRelay

namespace Bitbucket

/-- What is told of a reference that is gone, by what it was. -/
inductive TellsGone : Option RefState → Except DecodeError Subject → Prop
  | missing : TellsGone none (.error (.malformed (.lacks "closed change" "old ref")))
  | branch {old : RefState} (hk : old.type = "branch") :
      TellsGone (some old) (.ok (.branch { name := old.name, sha := some old.target.hash } .delete))
  | tag {old : RefState} (hk : old.type = "tag") :
      TellsGone (some old) (.ok (.tag { name := old.name, sha := some old.target.hash } .delete))
  | unknown {old : RefState} (hk : old.type ∉ ["branch", "tag"]) :
      TellsGone (some old) (.error (.unknownEvent old.type))

/-- What is told of some changes, sent by this user. -/
inductive TellsChanges (sender : User) : List Change → Except DecodeError Subject → Prop
  | nothing : TellsChanges sender [] (.error (.malformed (.lacks "push" "changes")))
  | closed {change : Change} {rest : List Change} {result : Except DecodeError Subject}
      (hx : change.closed = true) (h : TellsGone change.old result) :
      TellsChanges sender (change :: rest) result
  | missing {change : Change} {rest : List Change} (hx : change.closed = false)
      (hn : change.new = none) :
      TellsChanges sender (change :: rest) (.error (.malformed (.lacks "change" "new ref")))
  | createdTag {change : Change} {rest : List Change} {new : RefState} (hx : change.closed = false)
      (hn : change.new = some new) (hk : new.type = "tag") (hc : change.created = true) :
      TellsChanges sender (change :: rest)
        (.ok (.tag { name := new.name, sha := some new.target.hash } .create))
  | movedTag {change : Change} {rest : List Change} {new : RefState} (hx : change.closed = false)
      (hn : change.new = some new) (hk : new.type = "tag") (hc : change.created = false) :
      TellsChanges sender (change :: rest)
        (.ok (.tag { name := new.name, sha := some new.target.hash } .update))
  | branch {change : Change} {rest : List Change} {new : RefState} {push : Push}
      (hx : change.closed = false) (hn : change.new = some new) (hk : new.type = "branch")
      (hr : push.ref = "refs/heads/" ++ new.name) (ha : push.after = new.target.hash)
      (hb : ∀ old ∈ change.old, push.before = old.target.hash)
      (he : change.old = none → push.before = "") (hl : push.compare = change.links.html.href)
      (hm : (change.source new sender).Makes push) :
      TellsChanges sender (change :: rest) (.ok (.push push))
  | unknown {change : Change} {rest : List Change} {new : RefState} (hx : change.closed = false)
      (hn : change.new = some new) (hk : new.type ∉ ["branch", "tag"]) :
      TellsChanges sender (change :: rest) (.error (.unknownEvent new.type))

/-- Whether two lists of changes begin alike. Of a closed change only the old reference counts. -/
inductive BeginAlike : List Change → List Change → Prop
  | nothing : BeginAlike [] []
  | same {change : Change} {rest others : List Change} :
      BeginAlike (change :: rest) (change :: others)
  | closed {change other : Change} {rest others : List Change} (hc : change.closed = true)
      (ho : other.closed = true) (hold : change.old = other.old) :
      BeginAlike (change :: rest) (other :: others)

/-- What a payload is read by where it lists its changes. -/
def Changes.shape : Payload.Shape Changes :=
  .record "Push" Changes.mk <|
    .defaulted "changes" [] (.list Change.shape) .done

/-- The subject that some changes make. -/
def subjectOf (sender : User) : List Change → Except DecodeError Subject
  | [] => .error (.malformed (.lacks "push" "changes"))
  | change :: _ => change.subject sender

theorem PushPayload.toEvent_eq (p : PushPayload) :
    p.toEvent = (subjectOf p.actor.toUser p.push.changes).map fun subject =>
      { subject, repo := p.repo.toRepository, sender := p.actor.toUser } := by
  unfold PushPayload.toEvent
  cases p.push.changes with
  | nil => rfl
  | cons change rest =>
    simp only [subjectOf]
    cases change.subject p.actor.toUser <;> rfl

theorem decode_push {body : List UInt8} {p : PushPayload}
    (hp : PushPayload.shape.parse body = .ok p) :
    dialect.decode "repo:push" body =
      (subjectOf p.actor.toUser p.push.changes).map
        (Subject.told p.repo.toRepository p.actor.toUser) := by
  have hd : Provider.bitbucket.dialect? = some dialect := rfl
  exact decode_told hd rfl hp p.toEvent_eq

theorem tellsGone_subject {change : Change} (hx : change.closed = true) (sender : User) :
    TellsGone change.old (change.subject sender) := by
  unfold Change.subject
  rw [if_pos hx]
  cases change.old with
  | none => exact .missing
  | some old =>
    dsimp only
    split
    · next hk => exact .branch hk
    · next hk => exact .tag hk
    · next hb ht => exact .unknown (by simpa using ⟨hb, ht⟩)

theorem tellsChanges_subjectOf (sender : User) (changes : List Change) :
    TellsChanges sender changes (subjectOf sender changes) := by
  cases changes with
  | nil => exact .nothing
  | cons change rest =>
    rw [subjectOf]
    cases hx : change.closed with
    | true => exact .closed hx (tellsGone_subject hx sender)
    | false =>
      unfold Change.subject
      rw [hx, if_neg Bool.false_ne_true]
      cases hn : change.new with
      | none => exact .missing hx hn
      | some new =>
        dsimp only
        split
        · next hk =>
          cases hc : change.created with
          | true => exact .createdTag hx hn hk hc
          | false => exact .movedTag hx hn hk hc
        · next hk =>
          have hb : ∀ old ∈ change.old, (change.push new sender).before = old.target.hash := by
            intro old ho
            simp [Change.push, Option.mem_def.1 ho]
          have he : change.old = none → (change.push new sender).before = "" := by
            intro ho
            simp [Change.push, ho]
          exact .branch hx hn hk rfl rfl hb he rfl (change.source_makes new sender)
        · next ht hb => exact .unknown hx hn (by simpa using ⟨hb, ht⟩)

theorem subjectOf_congr {changes others : List Change} (h : BeginAlike changes others)
    (sender : User) : subjectOf sender changes = subjectOf sender others := by
  cases h with
  | nothing => rfl
  | same => rfl
  | closed hc ho hold =>
    simp only [subjectOf, Change.subject]
    rw [if_pos hc, if_pos ho, hold]

section Exchange

variable {first : Payload.Node} {later others : List Payload.Node}

/-- Other changes may be listed after the first. -/
theorem PushPayload.exists_exchanged {s t : List UInt8} {p : PushPayload}
    (h : Payload.Exchanges ⟨PushPayload.shape⟩ ["push", "changes"]
      (some (.list (first :: later) .closed)) (some (.list (first :: others) .closed)) s t)
    (ho : ∀ node ∈ others, ∃ change, Change.shape.read node = .ok change)
    (hp : PushPayload.shape.parse s = .ok p) :
    ∃ q, PushPayload.shape.parse t = .ok q ∧ q.actor = p.actor ∧ q.repo = p.repo ∧
      BeginAlike p.push.changes q.push.changes := by
  obtain ⟨q, a, b, hq, hout, hin⟩ :=
    Payload.exists_parse_inner h rfl (fun _ => Iff.rfl) (Payload.takes_list ho) hp
  simp only [Payload.Fields.Differ, Payload.Fields.Same, String.reduceEq, if_false, if_true]
    at hout hin
  obtain ⟨actor, repo, x, y, hx, hy, rfl, rfl⟩ := hout
  obtain ⟨changes, found, hc, hf, rfl, rfl⟩ := hin x y hx hy
  obtain ⟨change, rest, changed, rfl, hr⟩ := Payload.exists_defaulted_list hc ho
  obtain rfl : change :: changed = found := Option.some.inj (hr.symm.trans hf)
  exact ⟨_, hq, rfl, rfl, .same⟩

end Exchange

/-- A push is told by its first change alone, with the repository and whoever sent it. -/
theorem push_told_by_first_change {body : List UInt8} {p : PushPayload}
    (hp : PushPayload.shape.parse body = .ok p) :
    (∃ result, TellsChanges p.actor.toUser p.push.changes result ∧
      dialect.decode "repo:push" body =
        result.map (Subject.told p.repo.toRepository p.actor.toUser)) ∧
    (∀ (other : List UInt8) (q : PushPayload), PushPayload.shape.parse other = .ok q →
      q.actor = p.actor → q.repo = p.repo → BeginAlike p.push.changes q.push.changes →
      dialect.decode "repo:push" other = dialect.decode "repo:push" body) ∧
    (∀ (other : List UInt8) (first : Payload.Node) (later others : List Payload.Node),
      Payload.Exchanges ⟨PushPayload.shape⟩ ["push", "changes"]
        (some (.list (first :: later) .closed)) (some (.list (first :: others) .closed))
        body other →
      (∀ node ∈ others, ∃ change, Change.shape.read node = .ok change) →
      dialect.decode "repo:push" other = dialect.decode "repo:push" body) := by
  have hsame : ∀ (other : List UInt8) (q : PushPayload), PushPayload.shape.parse other = .ok q →
      q.actor = p.actor → q.repo = p.repo → BeginAlike p.push.changes q.push.changes →
      dialect.decode "repo:push" other = dialect.decode "repo:push" body := by
    intro other q hq ha hr hc
    rw [decode_push hp, decode_push hq, ha, hr, subjectOf_congr hc]
  refine ⟨⟨_, tellsChanges_subjectOf _ _, decode_push hp⟩, hsame, ?_⟩
  intro other first later others he ho
  obtain ⟨q, hq, ha, hr, hc⟩ := PushPayload.exists_exchanged he ho hp
  exact hsame other q hq ha hr hc

section Example

open Payload

/-- A push that deletes a tag, and lists these changes after that. -/
def goneTag (later : String) : List UInt8 :=
  ascii <|
    "\x7b\"actor\":\x7b\x7d,\"repository\":\x7b\"uuid\":\"i\",\"full_name\":\"o/n\"\x7d," ++
    "\"push\":\x7b\"changes\":[\x7b\"closed\":true,\"old\":\x7b\"type\":\"tag\",\"name\":\"v\"," ++
    "\"target\":\x7b\"hash\":\"a\"\x7d\x7d\x7d" ++ later ++ "]\x7d\x7d"

def goneTagChange : Node :=
  .object [(ascii "closed", .flag true),
    (ascii "old", .object [(ascii "type", .text (ascii "tag")), (ascii "name", .text (ascii "v")),
      (ascii "target", .object [(ascii "hash", .text (ascii "a"))] .closed)] .closed)] .closed

def goneTagSender : List (Spelling × Node) :=
  [(ascii "actor", .object [] .closed),
    (ascii "repository", .object [(ascii "uuid", .text (ascii "i")),
      (ascii "full_name", .text (ascii "o/n"))] .closed)]

def goneTagNode (later : List Node) : Node :=
  .object (goneTagSender ++ [(ascii "push",
    .object [(ascii "changes", .list (goneTagChange :: later) .closed)] .closed)]) .closed

set_option maxRecDepth 4000 in
theorem goneTag_scans : Says (goneTag ",\x7b\x7d") (goneTagNode [.object [] .closed]) :=
  Says.of_scan rfl

theorem goneTag_parses :
    ∃ p, PushPayload.shape.parse (goneTag ",\x7b\x7d") = .ok p ∧
      p.push.changes.map (·.closed) = [true, false] := by
  have hr : ((PushPayload.shape.read (goneTagNode [.object [] .closed])).toOption.map fun p =>
      p.push.changes.map (·.closed)) = some [true, false] := by decide +kernel
  obtain ⟨p, hp, hc⟩ := Option.map_eq_some_iff.1 hr
  exact ⟨p, (goneTag_scans.parse_eq _).trans (toOption_eq_some_iff.1 hp), hc⟩

set_option maxRecDepth 4000 in
theorem goneTag_exchanges :
    Exchanges ⟨PushPayload.shape⟩ ["push", "changes"]
      (some (.list [goneTagChange, .object [] .closed] .closed))
      (some (.list [goneTagChange] .closed)) (goneTag ",\x7b\x7d") (goneTag "") := by
  have hs : Says (goneTag "") (goneTagNode []) := Says.of_scan rfl
  have hchanges : (ascii "changes").decode = .ok "changes" := by
    apply toOption_eq_some_iff.1
    decide +kernel
  have hpush : (ascii "push").decode = .ok "push" := by
    apply toOption_eq_some_iff.1
    decide +kernel
  have hm : ∀ member ∈ goneTagSender ++ [], isUnder "push" member = false := by decide +kernel
  have hin := @exchanged_member ⟨Changes.shape⟩ "changes" [] [] _
    (.list [goneTagChange, .object [] .closed] .closed) (.list [goneTagChange] .closed) hchanges
    (by simp)
  exact ⟨_, _, goneTag_scans, hs, .within rfl (.here hin) (exchanged_member hpush hm)⟩

theorem goneTag_told :
    ∃ p, PushPayload.shape.parse (goneTag ",\x7b\x7d") = .ok p ∧
      p.push.changes.map (·.closed) = [true, false] ∧
      (∃ result, TellsChanges p.actor.toUser p.push.changes result ∧
        dialect.decode "repo:push" (goneTag ",\x7b\x7d") =
          result.map (Subject.told p.repo.toRepository p.actor.toUser)) ∧
      dialect.decode "repo:push" (goneTag "") =
        dialect.decode "repo:push" (goneTag ",\x7b\x7d") := by
  obtain ⟨p, hp, hc⟩ := goneTag_parses
  obtain ⟨htold, -, hfirst⟩ := push_told_by_first_change hp
  exact ⟨p, hp, hc, htold, hfirst _ _ _ _ goneTag_exchanges nofun⟩

end Example

end Bitbucket

namespace Stash

/-- Which action a change of a reference is, and which of its hashes tells where it is left. -/
inductive Leaves (change : Change) : Action → (hash : String) → Prop
  | added (ht : change.type = "ADD") : Leaves change .create change.toHash
  | updated (ht : change.type = "UPDATE") : Leaves change .update change.toHash
  | deleted (ht : change.type = "DELETE") : Leaves change .delete change.fromHash

/-- The first link of a repository to itself, without the one part that leads to its files. -/
inductive Base : List Link → String → Prop
  | unlinked : Base [] ""
  | files {link : Link} {rest : List Link} {base : String} (h : link.href = base ++ "/browse") :
      Base (link :: rest) base
  | plain {link : Link} {rest : List Link} (h : ∀ base, link.href ≠ base ++ "/browse") :
      Base (link :: rest) link.href

/-- What is told of some changes of a repository, sent by this user. -/
inductive TellsChanges (repo : Repo) (sender : User) :
    List Change → Except DecodeError Subject → Prop
  | nothing :
      TellsChanges repo sender [] (.error (.malformed (.lacks "refs_changed" "changes")))
  | unknownChange {change : Change} {rest : List Change}
      (ht : change.type ∉ ["ADD", "UPDATE", "DELETE"]) :
      TellsChanges repo sender (change :: rest) (.error (.unknownEvent change.type))
  | tag {change : Change} {rest : List Change} {action : Action} {hash : String}
      (ht : Leaves change action hash) (hk : change.ref.type = "TAG") :
      TellsChanges repo sender (change :: rest)
        (.ok (.tag { name := change.ref.displayId, sha := some hash } action))
  | deletedBranch {change : Change} {rest : List Change} (ht : change.type = "DELETE")
      (hk : change.ref.type = "BRANCH") :
      TellsChanges repo sender (change :: rest)
        (.ok (.branch { name := change.ref.displayId, sha := some change.fromHash } .delete))
  | branch {change : Change} {rest : List Change} {base compare : String} {pusher : Identity}
      (ht : change.type = "ADD" ∨ change.type = "UPDATE") (hk : change.ref.type = "BRANCH")
      (hb : Base repo.links.self base) (hc : compare = base ++ "/commits?until=" ++ change.toHash)
      (hi : pusher = ⟨sender.login, sender.name, sender.email, sender.avatar, none⟩) :
      TellsChanges repo sender (change :: rest) (.ok (.push {
        ref := change.ref.id
        before := change.fromHash
        after := change.toHash
        compare
        commit :=
          { sha := change.toHash, message := "", author := pusher, committer := pusher,
            link := compare }
        commits := [] }))
  | unknownRef {change : Change} {rest : List Change}
      (ht : change.type ∈ ["ADD", "UPDATE", "DELETE"])
      (hk : change.ref.type ∉ ["TAG", "BRANCH"]) :
      TellsChanges repo sender (change :: rest) (.error (.unknownEvent change.ref.type))

/-- The subject that some changes make. -/
def subjectOf (repo : Repo) (sender : User) : List Change → Except DecodeError Subject
  | [] => .error (.malformed (.lacks "refs_changed" "changes"))
  | change :: _ => change.subject repo sender

theorem RefsPayload.toEvent_eq (p : RefsPayload) :
    p.toEvent = (subjectOf p.repo p.actor.toUser p.changes).map fun subject =>
      { subject, repo := p.repo.toRepository, sender := p.actor.toUser } := by
  unfold RefsPayload.toEvent
  cases p.changes with
  | nil => rfl
  | cons change rest =>
    simp only [subjectOf]
    cases change.subject p.repo p.actor.toUser <;> rfl

theorem decode_refs {body : List UInt8} {p : RefsPayload}
    (hp : RefsPayload.shape.parse body = .ok p) :
    dialect.decode "repo:refs_changed" body =
      (subjectOf p.repo p.actor.toUser p.changes).map
        (Subject.told p.repo.toRepository p.actor.toUser) := by
  have hd : Provider.stash.dialect? = some dialect := rfl
  exact decode_told hd rfl hp p.toEvent_eq

theorem exists_base (links : Links) :
    ∃ base, Base links.self base ∧ commitsLink links.own = base ++ "/commits" := by
  unfold Links.own
  cases links.self with
  | nil => exact ⟨"", .unlinked, rfl⟩
  | cons link rest =>
    simp only [List.head?_cons, Option.map_some, Option.getD_some, commitsLink]
    cases hs : Text.stripTail? "/browse".toList link.href.toList with
    | none => exact ⟨link.href, .plain (Text.stripTail?_toList_eq_none_iff.1 hs), rfl⟩
    | some base =>
      exact ⟨String.ofList base, .files (Text.stripTail?_toList_eq_some_iff.1 hs), rfl⟩

theorem leaves_of_changeTypes {change : Change} {action : Action}
    (h : changeTypes.lookup change.type = some action) :
    Leaves change action (if action == .delete then change.fromHash else change.toHash) := by
  have hm := mem_of_lookup h
  simp only [changeTypes, List.mem_cons, Prod.mk.injEq, List.not_mem_nil, or_false] at hm
  rcases hm with ⟨ht, rfl⟩ | ⟨ht, rfl⟩ | ⟨ht, rfl⟩
  · exact .added ht
  · exact .updated ht
  · exact .deleted ht

theorem tellsChanges_push {change : Change} {rest : List Change} {repo : Repo} (sender : User)
    (ht : change.type = "ADD" ∨ change.type = "UPDATE") (hk : change.ref.type = "BRANCH") :
    TellsChanges repo sender (change :: rest) (.ok (.push (change.push repo sender))) := by
  obtain ⟨base, hb, hl⟩ := exists_base repo.links
  have hc : commitsLink repo.links.own ++ "?until=" ++ change.toHash =
      base ++ "/commits?until=" ++ change.toHash := by
    have hu : "/commits?until=" = "/commits" ++ "?until=" := rfl
    rw [hl, hu]
    simp only [String.append_assoc]
  exact .branch ht hk hb hc rfl

theorem tellsChanges_subjectOf (repo : Repo) (sender : User) (changes : List Change) :
    TellsChanges repo sender changes (subjectOf repo sender changes) := by
  cases changes with
  | nil => exact .nothing
  | cons change rest =>
    rw [subjectOf, Change.subject]
    split
    · next hl => exact .unknownChange (changeTypes_eq_none_iff.1 hl)
    · next action hl =>
      have ht := leaves_of_changeTypes hl
      dsimp only
      split
      · next hk => exact .tag ht hk
      · next hk =>
        -- Only a deletion leaves a branch with nothing to push.
        cases ht with
        | added ht => exact tellsChanges_push sender (.inl ht) hk
        | updated ht => exact tellsChanges_push sender (.inr ht) hk
        | deleted ht => exact .deletedBranch ht hk
      · next htag hbranch =>
        have hm : change.type ∈ ["ADD", "UPDATE", "DELETE"] := by
          refine Classical.byContradiction fun hn => ?_
          cases hl.symm.trans (changeTypes_eq_none_iff.2 hn)
        exact .unknownRef hm (by simpa using ⟨htag, hbranch⟩)

theorem subjectOf_congr {changes others : List Change} (h : changes.head? = others.head?)
    {repo : Repo} {sender : User} :
    subjectOf repo sender changes = subjectOf repo sender others := by
  cases changes <;> cases others <;> cases h <;> rfl

/-- Other changes may be listed after the first. -/
theorem RefsPayload.exists_exchanged {first : Payload.Node} {later others : List Payload.Node}
    {s t : List UInt8} {p : RefsPayload}
    (h : Payload.Exchanges ⟨RefsPayload.shape⟩ ["changes"]
      (some (.list (first :: later) .closed)) (some (.list (first :: others) .closed)) s t)
    (ho : ∀ node ∈ others, ∃ change, Change.shape.read node = .ok change)
    (hp : RefsPayload.shape.parse s = .ok p) :
    ∃ q, RefsPayload.shape.parse t = .ok q ∧ q.actor = p.actor ∧ q.repo = p.repo ∧
      q.changes.head? = p.changes.head? := by
  obtain ⟨q, hq, hd⟩ := Payload.exists_parse_exchanged h (Payload.takes_list ho) hp
  simp only [Payload.Fields.Differ, Payload.Fields.Same, String.reduceEq, if_false, if_true] at hd
  obtain ⟨actor, repo, changes, found, hc, hf, rfl, rfl⟩ := hd
  obtain ⟨change, rest, changed, rfl, hr⟩ := Payload.exists_defaulted_list hc ho
  obtain rfl : change :: changed = found := Option.some.inj (hr.symm.trans hf)
  exact ⟨_, hq, rfl, rfl, rfl⟩

/-- References that were changed are told by the first change alone, with the repository and
whoever sent it. -/
theorem refs_told_by_first_change {body : List UInt8} {p : RefsPayload}
    (hp : RefsPayload.shape.parse body = .ok p) :
    (∃ result, TellsChanges p.repo p.actor.toUser p.changes result ∧
      dialect.decode "repo:refs_changed" body =
        result.map (Subject.told p.repo.toRepository p.actor.toUser)) ∧
    (∀ (other : List UInt8) (q : RefsPayload), RefsPayload.shape.parse other = .ok q →
      q.actor = p.actor → q.repo = p.repo → q.changes.head? = p.changes.head? →
      dialect.decode "repo:refs_changed" other = dialect.decode "repo:refs_changed" body) ∧
    (∀ (other : List UInt8) (first : Payload.Node) (later others : List Payload.Node),
      Payload.Exchanges ⟨RefsPayload.shape⟩ ["changes"]
        (some (.list (first :: later) .closed)) (some (.list (first :: others) .closed))
        body other →
      (∀ node ∈ others, ∃ change, Change.shape.read node = .ok change) →
      dialect.decode "repo:refs_changed" other = dialect.decode "repo:refs_changed" body) := by
  have hsame : ∀ (other : List UInt8) (q : RefsPayload), RefsPayload.shape.parse other = .ok q →
      q.actor = p.actor → q.repo = p.repo → q.changes.head? = p.changes.head? →
      dialect.decode "repo:refs_changed" other = dialect.decode "repo:refs_changed" body := by
    intro other q hq ha hr hc
    rw [decode_refs hp, decode_refs hq, ha, hr, subjectOf_congr hc]
  refine ⟨⟨_, tellsChanges_subjectOf _ _ _, decode_refs hp⟩, hsame, ?_⟩
  intro other first later others he ho
  obtain ⟨q, hq, ha, hr, hc⟩ := RefsPayload.exists_exchanged he ho hp
  exact hsame other q hq ha hr hc

section Example

open Payload

/-- A new branch, and these changes after that. -/
def newBranch (later : String) : List UInt8 :=
  ascii <|
    "\x7b\"actor\":[\"u\",\"\",\"\",null],\"repository\":\x7b\"id\":1,\"slug\":\"s\"," ++
    "\"project\":[\"K\"]\x7d," ++
    "\"changes\":[[[\"r\",\"b\",\"BRANCH\"],\"a\",\"c\",\"ADD\"]" ++ later ++ "]\x7d"

def newBranchChange : Node :=
  .list [.list [.text (ascii "r"), .text (ascii "b"), .text (ascii "BRANCH")] .closed,
    .text (ascii "a"), .text (ascii "c"), .text (ascii "ADD")] .closed

/-- A change that makes no event when it is the first. -/
def strangeChange : Node :=
  .list [.list [.text [], .text [], .text []] .closed, .text [], .text [], .text []] .closed

def newBranchSender : List (Spelling × Node) :=
  [(ascii "actor", .list [.text (ascii "u"), .text [], .text [], .null] .closed),
    (ascii "repository", .object [(ascii "id", .number (ascii "1")),
      (ascii "slug", .text (ascii "s")),
      (ascii "project", .list [.text (ascii "K")] .closed)] .closed)]

def newBranchNode (later : List Node) : Node :=
  .object (newBranchSender ++ [(ascii "changes", .list (newBranchChange :: later) .closed)]) .closed

set_option maxRecDepth 4000 in
theorem newBranch_scans : Says (newBranch "") (newBranchNode []) :=
  Says.of_scan rfl

theorem newBranch_parses :
    ∃ p, RefsPayload.shape.parse (newBranch "") = .ok p ∧ p.changes.map (·.toHash) = ["c"] := by
  have hr : ((RefsPayload.shape.read (newBranchNode [])).toOption.map fun p =>
      p.changes.map (·.toHash)) = some ["c"] := by decide +kernel
  obtain ⟨p, hp, hc⟩ := Option.map_eq_some_iff.1 hr
  exact ⟨p, (newBranch_scans.parse_eq _).trans (toOption_eq_some_iff.1 hp), hc⟩

set_option maxRecDepth 4000 in
theorem newBranch_exchanges :
    Exchanges ⟨RefsPayload.shape⟩ ["changes"] (some (.list [newBranchChange] .closed))
      (some (.list [newBranchChange, strangeChange] .closed)) (newBranch "")
      (newBranch ",[[\"\",\"\",\"\"],\"\",\"\",\"\"]") := by
  have hs : Says (newBranch ",[[\"\",\"\",\"\"],\"\",\"\",\"\"]")
      (newBranchNode [strangeChange]) := Says.of_scan rfl
  have hk : (ascii "changes").decode = .ok "changes" := by
    apply toOption_eq_some_iff.1
    decide +kernel
  have hm : ∀ member ∈ newBranchSender ++ [], isUnder "changes" member = false := by
    decide +kernel
  exact ⟨_, _, newBranch_scans, hs, .here (exchanged_member hk hm)⟩

theorem newBranch_told :
    ∃ p, RefsPayload.shape.parse (newBranch "") = .ok p ∧ p.changes.map (·.toHash) = ["c"] ∧
      (∃ result, TellsChanges p.repo p.actor.toUser p.changes result ∧
        dialect.decode "repo:refs_changed" (newBranch "") =
          result.map (Subject.told p.repo.toRepository p.actor.toUser)) ∧
      dialect.decode "repo:refs_changed" (newBranch ",[[\"\",\"\",\"\"],\"\",\"\",\"\"]") =
        dialect.decode "repo:refs_changed" (newBranch "") := by
  have hstrange : ∀ node ∈ [strangeChange], ∃ change, Change.shape.read node = .ok change := by
    have hr : (Change.shape.read strangeChange).toOption.isSome = true := by decide +kernel
    obtain ⟨change, hc⟩ := Option.isSome_iff_exists.1 hr
    exact List.forall_mem_singleton.2 ⟨change, toOption_eq_some_iff.1 hc⟩
  obtain ⟨p, hp, hc⟩ := newBranch_parses
  obtain ⟨htold, -, hfirst⟩ := refs_told_by_first_change hp
  exact ⟨p, hp, hc, htold, hfirst _ newBranchChange [] [strangeChange] newBranch_exchanges hstrange⟩

end Example

end Stash

end WebhookRelay
