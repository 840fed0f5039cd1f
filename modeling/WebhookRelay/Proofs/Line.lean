import WebhookRelay.Proofs.Dates

/-!
What is written of an accepted event: one line, which tells the provider and the event, and no
other.
-/

namespace WebhookRelay

open Json

theorem Provider.name_inj {p q : Provider} (h : p.name = q.name) : p = q := by
  revert h
  cases p <;> cases q <;> decide

theorem Event.member?_kind (e : Event) : e.toJson.member? "kind" = some (.str e.kind) := by
  obtain ⟨subject, repo, sender⟩ := e
  cases subject <;> rfl

theorem Event.member?_repo (e : Event) : e.toJson.member? "repo" = some e.repo.toJson := by
  obtain ⟨subject, repo, sender⟩ := e
  cases subject <;> rfl

/-- The action stands in the record of every event that has one. -/
theorem Event.member?_action (e : Event) :
    e.toJson.member? "action" = e.action?.map fun a => .str a.name := by
  obtain ⟨subject, repo, sender⟩ := e
  cases subject <;> rfl

/-- Whether a line tells a provider and an event: it is one line, a sound JSON text, and read back
it names the provider beside the record of the event. -/
structure Tells (line : String) (provider : Provider) (event : Event) : Prop where
  not_control : ∀ c ∈ line.toList, 0x20 ≤ c.toNat
  sound : ∃ node, Payload.Writes (.value node) (Text.Utf8.encode line)
  reads : ∃ record,
    Value.ofText? line = some (.obj [("driver", .str provider.name), ("event", record)]) ∧
    record.member? "kind" = some (.str event.kind) ∧
    record.member? "action" = (event.action?.map fun a => .str a.name) ∧
    Event.ofJson? record = some event

theorem Event.line_tells {event : Event} (h : event.Dated) (provider : Provider) :
    Tells (event.line provider) provider event where
  not_control := Value.not_control_compact _
  sound := ⟨_, Value.writes_compact _⟩
  reads := by
    rw [← provider.tag_eq_name]
    exact ⟨event.toJson, Value.ofText?_compact _, event.member?_kind, event.member?_action,
      Event.ofJson?_toJson h⟩

/-- A line does not tell two things. -/
theorem Tells.unique {line : String} {provider other : Provider} {event event' : Event}
    (h : Tells line provider event) (ho : Tells line other event') :
    provider = other ∧ event = event' := by
  obtain ⟨record, hr, -, -, he⟩ := h.reads
  obtain ⟨record', hr', -, -, he'⟩ := ho.reads
  have hp : provider.name = other.name ∧ record = record' := by simpa using hr.symm.trans hr'
  refine ⟨Provider.name_inj hp.1, ?_⟩
  rw [← hp.2, he] at he'
  exact Option.some.inj he'

/-- Whatever texts an event holds, its line tells its provider and the event, and the lines of
different events or providers are different. -/
theorem line_tells_event {provider : Provider} {event : Event} (h : event.Dated) :
    Tells (event.line provider) provider event ∧
      ∀ other event', Event.Dated event' → event'.line other = event.line provider →
        other = provider ∧ event' = event := by
  have ht := event.line_tells h provider
  refine ⟨ht, fun other event' ho hl => ?_⟩
  have ho := event'.line_tells ho other
  rw [hl] at ho
  exact ho.unique ht

/-- A push of a commit that is dated at a leap second and whose message has two lines. -/
def brokenLinePush : List UInt8 :=
  Text.Utf8.encode <|
    "\x7b\"object_kind\":\"push\",\"before\":\"a\",\"after\":\"c\",\"ref\":\"r\"," ++
    "\"user_username\":\"u\",\"project\":\x7b\"id\":1,\"path_with_namespace\":\"o/n\"\x7d," ++
    "\"commits\":[\x7b\"id\":\"c\",\"message\":\"one\\n\\\"two\\\"\"," ++
    "\"timestamp\":\"2016-12-31 23:59:60.25-05:30\",\"author\":\x7b\"name\":\"x\"\x7d\x7d]\x7d"

def brokenLineCommit : Commit :=
  let author : Identity :=
    { name := "x"
      date := some
        { year := 2016, month := 12, day := 31, hour := 23, minute := 59, second := 60
          nano := 250000000, offset := -330, valid := by decide } }
  { sha := "c", message := "one\n\"two\"", author, committer := author }

def brokenLineEvent : Event where
  subject := .push {
    ref := "r"
    before := "a"
    after := "c"
    compare := "/-/compare/a...c"
    commit := brokenLineCommit
    commits := [brokenLineCommit] }
  repo := { id := "1", owner := "o", name := "n", isPrivate := true }
  sender := { login := "u" }

theorem brokenLinePush_decodes :
    GitLab.dialect.decode "Push Hook" brokenLinePush = .ok { event := brokenLineEvent } := by
  apply Payload.toOption_eq_some_iff.1
  decide +kernel

theorem brokenLineEvent_told :
    brokenLineEvent.Dated ∧ Tells (brokenLineEvent.line .gitlab) .gitlab brokenLineEvent ∧
      brokenLineEvent.line .gitea ≠ brokenLineEvent.line .gitlab := by
  have hd : Provider.gitlab.dialect? = some GitLab.dialect := rfl
  have h : brokenLineEvent.Dated := dated_of_decode hd brokenLinePush_decodes
  obtain ⟨ht, hu⟩ := @line_tells_event .gitlab brokenLineEvent h
  exact ⟨h, ht, fun hl => nomatch (hu .gitea brokenLineEvent h hl).1⟩

end WebhookRelay
