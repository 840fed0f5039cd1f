import WebhookRelay.Proofs.Authenticity
import WebhookRelay.Proofs.Table

/-!
Decoding in one form for all dialects: the name of an event picks a shape, the payload is read by
it, and what was read is converted. So a body counts only by what its shape reads of it.
-/

namespace WebhookRelay

/-- A shape of payloads with what is made of them. -/
structure Reading where
  {α : Type}
  shape : Payload.Shape α
  convert : α → Except DecodeError Decoded

namespace Reading

def run (reading : Reading) (body : List UInt8) : Except DecodeError Decoded := do
  reading.convert (← (reading.shape.parse body).mapError .malformed)

/-- Payloads that may be no event, and carry no secret. -/
def perhaps {α : Type} (shape : Payload.Shape α) (toEvent : α → Except DecodeError Event) :
    Reading where
  shape := shape
  convert payload := do return { event := ← toEvent payload }

/-- Payloads that are events, and carry no secret. -/
def always {α : Type} (shape : Payload.Shape α) (toEvent : α → Event) : Reading :=
  perhaps shape (.ok ∘ toEvent)

theorem run_perhaps {α : Type} (shape : Payload.Shape α) (toEvent : α → Except DecodeError Event)
    (body : List UInt8) :
    (perhaps shape toEvent).run body = do
      return { event := ← Dialect.decodeAs shape toEvent body } := by
  unfold run perhaps Dialect.decodeAs
  cases shape.parse body with
  | error fault => rfl
  | ok payload => rfl

theorem run_eq_ok_iff {reading : Reading} {body : List UInt8} {decoded : Decoded} :
    reading.run body = .ok decoded ↔
      ∃ payload, reading.shape.parse body = .ok payload ∧ reading.convert payload = .ok decoded := by
  simp only [run, Payload.bind_eq_ok_iff, Payload.mapError_eq_ok_iff]

theorem run_eq_unknownEvent_iff {reading : Reading} {body : List UInt8} {kind : String} :
    reading.run body = .error (.unknownEvent kind) ↔
      ∃ payload, reading.shape.parse body = .ok payload ∧
        reading.convert payload = .error (.unknownEvent kind) := by
  unfold run
  cases reading.shape.parse body with
  | error fault =>
    constructor
    · intro h
      cases h
    · rintro ⟨payload, hp, -⟩
      cases hp
  | ok payload =>
    constructor
    · intro h
      exact ⟨payload, rfl, h⟩
    · rintro ⟨other, hp, h⟩
      cases hp
      exact h

theorem convert_perhaps_eq_ok_iff {α : Type} {shape : Payload.Shape α}
    {toEvent : α → Except DecodeError Event} {payload : α} {decoded : Decoded} :
    (perhaps shape toEvent).convert payload = .ok decoded ↔
      ∃ event, toEvent payload = .ok event ∧ decoded = { event } :=
  return_eq_ok_iff

theorem convert_perhaps_eq_error_iff {α : Type} {shape : Payload.Shape α}
    {toEvent : α → Except DecodeError Event} {payload : α} {cause : DecodeError} :
    (perhaps shape toEvent).convert payload = .error cause ↔ toEvent payload = .error cause := by
  show (do return { event := ← toEvent payload } : Except DecodeError Decoded) = .error cause ↔ _
  cases toEvent payload with
  | error other =>
    constructor
    · intro h
      cases h
      rfl
    · intro h
      cases h
      rfl
  | ok event =>
    constructor <;> intro h <;> cases h

end Reading

def GitHub.reading : GitHub.Topic → Reading
  | .push => .always GitHub.PushPayload.shape (·.toEvent)
  | .create => .perhaps GitHub.RefPayload.shape (·.toEvent .create)
  | .delete => .perhaps GitHub.RefPayload.shape (·.toEvent .delete)
  | .issue => .always GitHub.IssuePayload.shape (·.toEvent)
  | .issueComment => .always GitHub.IssueCommentPayload.shape (·.toEvent)
  | .pullRequest => .always GitHub.PullPayload.shape (·.toEvent)
  | .review => .always GitHub.ReviewPayload.shape (·.toEvent)
  | .reviewComment => .always GitHub.PullCommentPayload.shape (·.toEvent)

def GitLab.reading : GitLab.Topic → Reading
  | .push => .perhaps GitLab.PushPayload.shape (·.toEvent)
  | .issue => .always GitLab.IssuePayload.shape (·.toEvent)
  | .mergeRequest => .always GitLab.MergeRequestPayload.shape (·.toEvent)
  | .note => .perhaps GitLab.NotePayload.shape (·.toEvent)

def Gitea.reading : Gitea.Topic → Reading
  | .push =>
    { shape := Gitea.PushPayload.shape
      convert := fun p => .ok { event := p.toEvent, secret := Dialect.given? p.secret } }
  | .create => .perhaps Gitea.RefPayload.shape (·.toEvent .create)
  | .delete => .perhaps Gitea.RefPayload.shape (·.toEvent .delete)
  | .issue => .always Gitea.IssuePayload.shape (·.toEvent)
  | .issueComment => .always Gitea.IssueCommentPayload.shape (·.toEvent)
  | .pullRequest => .always Gitea.PullPayload.shape (·.toEvent)
  | .review => .always Gitea.ReviewPayload.shape (·.toEvent)

def Gogs.pullReading : Reading := .always Gogs.PullPayload.shape (·.toEvent)

def Bitbucket.reading : Bitbucket.Topic → Reading
  | .push => .perhaps Bitbucket.PushPayload.shape (·.toEvent)
  | .pullRequest action => .always Bitbucket.PullPayload.shape (·.toEvent action)
  | .pullRequestComment action => .always Bitbucket.PullCommentPayload.shape (·.toEvent action)

def Stash.reading : Stash.Topic → Reading
  | .refs => .perhaps Stash.RefsPayload.shape (·.toEvent)
  | .pullRequest action => .always Stash.PullPayload.shape (·.toEvent action)
  | .pullRequestComment action => .always Stash.PullCommentPayload.shape (·.toEvent action)

namespace Provider

/-- How the payload of a named event is read. -/
def reading? : Provider → String → Option Reading
  | github, event => (GitHub.topics.lookup event).map GitHub.reading
  | gitlab, event => (GitLab.topics.lookup event).map GitLab.reading
  | gitea, event => (Gitea.topics.lookup event).map Gitea.reading
  | gogs, event =>
    ((Gogs.sharedTopics.lookup event).map Gitea.reading).or
      (if event = "pull_request" then some Gogs.pullReading else none)
  | bitbucket, event => (Bitbucket.topics.lookup event).map Bitbucket.reading
  | stash, event => (Stash.topics.lookup event).map Stash.reading
  | fake, _ => none

/-- The names of the events that are handled. -/
def eventNames : Provider → List String
  | github => GitHub.topics.map Prod.fst
  | gitlab => GitLab.topics.map Prod.fst
  | gitea => Gitea.topics.map Prod.fst
  | gogs => Gogs.sharedTopics.map Prod.fst ++ ["pull_request"]
  | bitbucket => Bitbucket.topics.map Prod.fst
  | stash => Stash.topics.map Prod.fst
  | fake => []

theorem reading?_eq_none_iff {provider : Provider} {event : String} :
    provider.reading? event = none ↔ event ∉ provider.eventNames := by
  cases provider with
  | gogs =>
    unfold reading? eventNames
    rw [Option.or_eq_none_iff, Option.map_eq_none_iff, lookup_eq_none_iff, List.mem_append, not_or]
    by_cases he : event = "pull_request" <;> simp [he]
  | fake => exact iff_of_true rfl (List.not_mem_nil)
  | _ =>
    unfold reading? eventNames
    rw [Option.map_eq_none_iff, lookup_eq_none_iff]

end Provider

/-- The readings of the events that are handled, by the tables that name them. -/
inductive Handled : Provider → (event : String) → Reading → Prop
  | gitHub {event : String} {topic : GitHub.Topic} (ht : (event, topic) ∈ GitHub.topics) :
      Handled .github event (GitHub.reading topic)
  | gitLab {event : String} {topic : GitLab.Topic} (ht : (event, topic) ∈ GitLab.topics) :
      Handled .gitlab event (GitLab.reading topic)
  | gitea {event : String} {topic : Gitea.Topic} (ht : (event, topic) ∈ Gitea.topics) :
      Handled .gitea event (Gitea.reading topic)
  | gogs {event : String} {topic : Gitea.Topic} (ht : (event, topic) ∈ Gogs.sharedTopics) :
      Handled .gogs event (Gitea.reading topic)
  | gogsPull : Handled .gogs "pull_request" Gogs.pullReading
  | bitbucket {event : String} {topic : Bitbucket.Topic} (ht : (event, topic) ∈ Bitbucket.topics) :
      Handled .bitbucket event (Bitbucket.reading topic)
  | stash {event : String} {topic : Stash.Topic} (ht : (event, topic) ∈ Stash.topics) :
      Handled .stash event (Stash.reading topic)

theorem handled_of_reading? {provider : Provider} {event : String} {reading : Reading}
    (hr : provider.reading? event = some reading) : Handled provider event reading := by
  cases provider with
  | github =>
    obtain ⟨topic, ht, rfl⟩ := Option.map_eq_some_iff.1 hr
    exact .gitHub (mem_of_lookup ht)
  | gitlab =>
    obtain ⟨topic, ht, rfl⟩ := Option.map_eq_some_iff.1 hr
    exact .gitLab (mem_of_lookup ht)
  | gitea =>
    obtain ⟨topic, ht, rfl⟩ := Option.map_eq_some_iff.1 hr
    exact .gitea (mem_of_lookup ht)
  | gogs =>
    rcases Option.or_eq_some_iff.1 hr with hr | ⟨-, hr⟩
    · obtain ⟨topic, ht, rfl⟩ := Option.map_eq_some_iff.1 hr
      exact .gogs (mem_of_lookup ht)
    · split at hr
      · next he =>
        cases hr
        rw [he]
        exact .gogsPull
      · cases hr
  | bitbucket =>
    obtain ⟨topic, ht, rfl⟩ := Option.map_eq_some_iff.1 hr
    exact .bitbucket (mem_of_lookup ht)
  | stash =>
    obtain ⟨topic, ht, rfl⟩ := Option.map_eq_some_iff.1 hr
    exact .stash (mem_of_lookup ht)
  | fake => cases hr

theorem GitHub.decodeTopic_eq (body : List UInt8) (topic : GitHub.Topic) :
    (do return { event := ← GitHub.decodeTopic body topic } : Except DecodeError Decoded) =
      (GitHub.reading topic).run body := by
  cases topic <;> exact (Reading.run_perhaps _ _ body).symm

theorem GitLab.decodeTopic_eq (body : List UInt8) (topic : GitLab.Topic) :
    (do return { event := ← GitLab.decodeTopic body topic } : Except DecodeError Decoded) =
      (GitLab.reading topic).run body := by
  cases topic <;> exact (Reading.run_perhaps _ _ body).symm

theorem Gitea.decodeTopic_eq (body : List UInt8) (topic : Gitea.Topic) :
    Gitea.decodeTopic body topic = (Gitea.reading topic).run body := by
  cases topic with
  | push => rfl
  | _ => exact (Reading.run_perhaps _ _ body).symm

theorem Bitbucket.decodeTopic_eq (body : List UInt8) (topic : Bitbucket.Topic) :
    (do return { event := ← Bitbucket.decodeTopic body topic } : Except DecodeError Decoded) =
      (Bitbucket.reading topic).run body := by
  cases topic <;> exact (Reading.run_perhaps _ _ body).symm

theorem Stash.decodeTopic_eq (body : List UInt8) (topic : Stash.Topic) :
    (do return { event := ← Stash.decodeTopic body topic } : Except DecodeError Decoded) =
      (Stash.reading topic).run body := by
  cases topic <;> exact (Reading.run_perhaps _ _ body).symm

/-- Every dialect decodes a payload by the reading that the name of its event picks. -/
theorem decode_eq {provider : Provider} {dialect : Dialect}
    (hd : provider.dialect? = some dialect) (event : String) (body : List UInt8) :
    dialect.decode event body =
      match provider.reading? event with
      | some reading => reading.run body
      | none => .error (.unknownEvent event) := by
  cases provider with
  | github =>
    cases hd
    simp only [GitHub.dialect, Provider.reading?]
    cases GitHub.topics.lookup event with
    | none => rfl
    | some topic => exact GitHub.decodeTopic_eq body topic
  | gitlab =>
    cases hd
    simp only [GitLab.dialect, Provider.reading?]
    cases GitLab.topics.lookup event with
    | none => rfl
    | some topic => exact GitLab.decodeTopic_eq body topic
  | gitea =>
    cases hd
    simp only [Gitea.dialect, Provider.reading?]
    cases Gitea.topics.lookup event with
    | none => rfl
    | some topic => exact Gitea.decodeTopic_eq body topic
  | gogs =>
    cases hd
    simp only [Gogs.dialect, Gogs.decode, Provider.reading?]
    cases Gogs.sharedTopics.lookup event with
    | none =>
      by_cases he : event = "pull_request"
      · rw [if_pos he, if_pos he]
        exact (Reading.run_perhaps _ _ body).symm
      · rw [if_neg he, if_neg he]
        rfl
    | some topic => exact Gitea.decodeTopic_eq body topic
  | bitbucket =>
    cases hd
    simp only [Bitbucket.dialect, Provider.reading?]
    cases Bitbucket.topics.lookup event with
    | none => rfl
    | some topic => exact Bitbucket.decodeTopic_eq body topic
  | stash =>
    cases hd
    simp only [Stash.dialect, Provider.reading?]
    cases Stash.topics.lookup event with
    | none => rfl
    | some topic => exact Stash.decodeTopic_eq body topic
  | fake => cases hd

theorem decode_of_reading {provider : Provider} {dialect : Dialect}
    (hd : provider.dialect? = some dialect) {event : String} {reading : Reading}
    (hr : provider.reading? event = some reading) (body : List UInt8) :
    dialect.decode event body = reading.run body := by
  rw [decode_eq hd, hr]

theorem decode_of_unknown {provider : Provider} {dialect : Dialect}
    (hd : provider.dialect? = some dialect) {event : String} (he : event ∉ provider.eventNames)
    (body : List UInt8) : dialect.decode event body = .error (.unknownEvent event) := by
  rw [decode_eq hd, Provider.reading?_eq_none_iff.2 he]

/-- The event that a subject makes, without a secret. -/
def Subject.told (repo : Repository) (sender : User) (subject : Subject) : Decoded :=
  { event := { subject, repo, sender } }

theorem decode_of_parse {provider : Provider} {dialect : Dialect}
    (hd : provider.dialect? = some dialect) {event : String} {α : Type} {shape : Payload.Shape α}
    {toEvent : α → Except DecodeError Event}
    (hr : provider.reading? event = some (.perhaps shape toEvent)) {body : List UInt8} {payload : α}
    (hp : shape.parse body = .ok payload) :
    dialect.decode event body = (toEvent payload).map fun event => { event } := by
  rw [decode_of_reading hd hr, Reading.run_perhaps, Dialect.decodeAs, hp]
  show (do return { event := ← toEvent payload } : Except DecodeError Decoded) = _
  cases toEvent payload <;> rfl

theorem decode_told {provider : Provider} {dialect : Dialect}
    (hd : provider.dialect? = some dialect) {event : String} {α : Type} {shape : Payload.Shape α}
    {toEvent : α → Except DecodeError Event}
    (hr : provider.reading? event = some (.perhaps shape toEvent)) {body : List UInt8} {payload : α}
    (hp : shape.parse body = .ok payload) {result : Except DecodeError Subject} {repo : Repository}
    {sender : User} (he : toEvent payload = result.map fun subject => { subject, repo, sender }) :
    dialect.decode event body = result.map (Subject.told repo sender) := by
  rw [decode_of_parse hd hr hp, he]
  cases result <;> rfl

/-- What decodes to an event is read by one of the readings. -/
theorem exists_run_of_decode {provider : Provider} {dialect : Dialect}
    (hd : provider.dialect? = some dialect) {event : String} {body : List UInt8} {decoded : Decoded}
    (h : dialect.decode event body = .ok decoded) :
    ∃ reading, Handled provider event reading ∧ reading.run body = .ok decoded := by
  cases hr : provider.reading? event with
  | none =>
    rw [decode_of_unknown hd (Provider.reading?_eq_none_iff.1 hr)] at h
    cases h
  | some reading =>
    rw [decode_of_reading hd hr] at h
    exact ⟨reading, handled_of_reading? hr, h⟩

/-- What decodes to an event is the payload of a handled event. -/
theorem handled_of_decode {provider : Provider} {dialect : Dialect}
    (hd : provider.dialect? = some dialect) {event : String} {body : List UInt8} {decoded : Decoded}
    (h : dialect.decode event body = .ok decoded) :
    ∃ reading, Handled provider event reading ∧ ∃ payload,
      reading.shape.parse body = .ok payload ∧ reading.convert payload = .ok decoded := by
  obtain ⟨reading, hr, hrun⟩ := exists_run_of_decode hd h
  exact ⟨reading, hr, Reading.run_eq_ok_iff.1 hrun⟩

end WebhookRelay
