import WebhookRelay.Proofs.Line
import WebhookRelay.Receiver

/-!
What a receiver makes of a request depends on the rules, the request and whether its channel is
open. Every accepted event is told by one line, which is written once the writer has its turn.
-/

namespace WebhookRelay.Receiver

open Json

/-- Whether a request brings a delivery for a provider that decodes to an event. -/
structure Request.Brings (r : Request) (provider : Provider) (delivery : Delivery) (event : Event) :
    Prop where
  route : ∃ name, r.route? = some name ∧ Provider.ofName? name = some provider
  delivery_eq : r.delivery = .ok delivery
  decodes : Decodes provider delivery event

/-- Whether a delivery passes the check with the key for its event. -/
def Admitted (rules : List Rule) (provider : Provider) (delivery : Delivery) (event : Event) :
    Prop :=
  Rule.keyFor rules provider event.repo.fullName = "" ∨
    Proves provider delivery event (Rule.keyFor rules provider event.repo.fullName)

/-- The response to a request, if it is the first. -/
def reply (rules : List Rule) (isOpen : Bool) (r : Request) : Response :=
  (serve rules { isOpen } r).1

/-- The requests among the occasions, each with whether the channel is open by then. -/
def requests (isOpen : Bool) : List Occasion → List (Request × Bool)
  | [] => []
  | .request r :: rest => (r, isOpen) :: requests isOpen rest
  | .close :: rest => requests false rest

/-- Whether a line, read back, is from a provider and about an event of a kind in a repository. -/
inductive Reports (line : String) (provider : Provider) (kind repository : String) : Prop
  | mk {record repo : Value} {owner name : String}
      (hl : Value.ofText? line = some (.obj [("driver", .str provider.name), ("event", record)]))
      (hk : record.member? "kind" = some (.str kind)) (hr : record.member? "repo" = some repo)
      (ho : repo.member? "namespace" = some (.str owner))
      (hn : repo.member? "name" = some (.str name)) (hf : owner ++ "/" ++ name = repository) :
      Reports line provider kind repository

/-- Whether a response to a request tells the event that is written, if one is. -/
structure Faithful (r : Request) (response : Response) : Prop where
  of_accepted : response.status = 200 → ∃ provider delivery event,
    r.Brings provider delivery event ∧ response.lines = [event.line provider] ∧
    Tells (event.line provider) provider event ∧
    Reports (event.line provider) provider event.kind event.repo.fullName ∧
    response.content? =
      some (.obj [("kind", .str event.kind), ("repository", .str event.repo.fullName)])
  of_refused : response.status ≠ 200 → response.lines = [] ∧ response.content? = none

/-- What becomes of a response by closing the channel before: no acceptance, but a status of 500. -/
def Response.shut (response : Response) : Response :=
  if response.status = 200 then { answer := .refused .closed, lines := [] } else response

/-- The occasion of a turn, if it is not one of the writer. -/
def Turn.occasion? : Turn → Option Occasion
  | .occasion o => some o
  | .write => none

/-- Whether the answers are those of the responses, and their lines are written or wait. -/
structure Progress.Keeps (p : Progress) (isOpen : Bool) (responses : List Response) : Prop where
  isOpen_eq : p.channel.isOpen = isOpen
  answers_eq : p.answers = responses.map Response.answer
  lines_eq : p.lines ++ p.channel.lines = responses.flatMap Response.lines

section Line

variable {r : Request} {provider : Provider} {delivery : Delivery} {event : Event}

theorem reports_line (provider : Provider) (event : Event) :
    Reports (event.line provider) provider event.kind event.repo.fullName := by
  have hl : Value.ofText? (event.line provider) =
      some (.obj [("driver", .str provider.name), ("event", event.toJson)]) := by
    rw [← provider.tag_eq_name]
    exact Value.ofText?_compact _
  exact .mk hl event.member?_kind event.member?_repo rfl rfl rfl

theorem Request.Brings.dated (h : r.Brings provider delivery event) : event.Dated := by
  obtain ⟨-, -, dialect, decoded, hl, hc, rfl⟩ := h
  unfold Dialect.decodeDelivery at hc
  exact dated_of_decode hl hc

end Line

section Handle

variable {rules : List Rule} {r : Request} {provider : Provider} {delivery : Delivery}
  {event : Event}

theorem handle_of_brings (h : r.Brings provider delivery event) (channel : Channel) :
    (Admitted rules provider delivery event →
      handle rules channel r = forward channel provider event) ∧
    (¬ Admitted rules provider delivery event →
      handle rules channel r = (.refused (.unparsed (.forged event)), channel)) := by
  obtain ⟨⟨name, hr, hp⟩, hd, dialect, decoded, hl, hc, rfl⟩ := h
  have hj : (parse provider delivery (resolver rules provider)).run =
      dialect.judge delivery decoded
        (.ok (Rule.keyFor rules provider decoded.event.repo.fullName)) := by
    rw [parse_of_decoded _ hl hc]
    rfl
  simp only [handle, hr, hd, hp, hj]
  constructor
  · rintro (hk | hv)
    · rw [hk]
      rfl
    · rw [judge_of_proves hl hc hv]
  · intro hn
    obtain ⟨hk, hv⟩ := not_or.1 hn
    rw [judge_of_not_proves hl hc hk hv]

/-- A request is refused in the same way by every channel, or brings an event to send on. -/
theorem handle_cases (rules : List Rule) (r : Request) :
    (∃ cause : Refusal, cause.status ≠ 200 ∧
      ∀ channel, handle rules channel r = (.refused cause, channel)) ∨
    (∃ provider delivery event, r.Brings provider delivery event ∧
      Admitted rules provider delivery event ∧
      ∀ channel, handle rules channel r = forward channel provider event) := by
  cases hr : r.route? with
  | none =>
    refine .inl ⟨.noRoute, by decide, fun channel => ?_⟩
    simp only [handle, hr]
  | some name =>
    cases hd : r.delivery with
    | error cause =>
      refine .inl ⟨.ofBody cause, by cases cause <;> simp [Refusal.ofBody, Refusal.status],
        fun channel => ?_⟩
      simp only [handle, hr, hd]
    | ok delivery =>
      cases hp : Provider.ofName? name with
      | none =>
        refine .inl ⟨.unknownProvider, by decide, fun channel => ?_⟩
        simp only [handle, hr, hd, hp]
      | some provider =>
        obtain ⟨rfl, -⟩ | ⟨dialect, cause, hl, hc, -⟩ | ⟨dialect, decoded, hl, hc, -⟩ :=
          unkeyed_cases provider delivery
        · have hl : Provider.dialect? .fake = none := rfl
          refine .inl ⟨.unparsed (.unsupported .fake), by decide, fun channel => ?_⟩
          simp only [handle, hr, hd, hp, parse_of_none _ hl]
          rfl
        · refine .inl ⟨.unparsed (.undecoded cause), by simp [Refusal.status], fun channel => ?_⟩
          simp only [handle, hr, hd, hp, parse_of_undecoded _ hl hc]
          rfl
        · have hb : r.Brings provider delivery decoded.event :=
            ⟨⟨name, hr, hp⟩, hd, dialect, decoded, hl, hc, rfl⟩
          by_cases ha : Admitted rules provider delivery decoded.event
          · exact .inr ⟨provider, delivery, decoded.event, hb, ha, fun channel =>
              (handle_of_brings hb channel).1 ha⟩
          · exact .inl ⟨.unparsed (.forged decoded.event), by simp [Refusal.status], fun channel =>
              (handle_of_brings hb channel).2 ha⟩

theorem reply_of_admitted (h : r.Brings provider delivery event)
    (ha : Admitted rules provider delivery event) :
    reply rules true r =
      { answer := .accepted event.kind event.repo.fullName, lines := [event.line provider] } := by
  rw [reply, serve, (handle_of_brings h _).1 ha]
  rfl

end Handle

section Reply

variable (rules : List Rule) (r : Request)

theorem reply_cases :
    (∃ cause : Refusal, cause.status ≠ 200 ∧
      ∀ isOpen, reply rules isOpen r = { answer := .refused cause, lines := [] }) ∨
    (∃ provider delivery event, r.Brings provider delivery event ∧
      Admitted rules provider delivery event ∧
      reply rules true r =
        { answer := .accepted event.kind event.repo.fullName, lines := [event.line provider] } ∧
      reply rules false r = { answer := .refused .closed, lines := [] }) := by
  obtain ⟨cause, hs, h⟩ | ⟨provider, delivery, event, hb, ha, h⟩ := handle_cases rules r
  · refine .inl ⟨cause, hs, fun isOpen => ?_⟩
    rw [reply, serve, h]
    rfl
  · refine .inr ⟨provider, delivery, event, hb, ha, ?_, ?_⟩ <;>
    · rw [reply, serve, h]
      rfl

theorem reply_faithful (isOpen : Bool) : Faithful r (reply rules isOpen r) := by
  obtain ⟨cause, hs, h⟩ | ⟨provider, delivery, event, hb, -, ho, hc⟩ := reply_cases rules r
  · rw [h isOpen]
    exact ⟨fun h => absurd h hs, fun _ => ⟨rfl, rfl⟩⟩
  · cases isOpen with
    | true =>
      rw [ho]
      exact ⟨fun _ => ⟨provider, delivery, event, hb, rfl, event.line_tells hb.dated provider,
        reports_line provider event, rfl⟩, fun h => absurd rfl h⟩
    | false =>
      rw [hc]
      exact ⟨fun h => absurd h (by decide), fun _ => ⟨rfl, rfl⟩⟩

theorem reply_false (isOpen : Bool) : reply rules false r = (reply rules isOpen r).shut := by
  obtain ⟨cause, hs, h⟩ | ⟨provider, delivery, event, -, -, ho, hc⟩ := reply_cases rules r
  · rw [h, h]
    exact (if_neg hs).symm
  · cases isOpen with
    | true =>
      rw [ho, hc]
      rfl
    | false =>
      rw [hc]
      rfl

/-- What waits already does not matter for an answer, and stays in front of what is sent. -/
theorem handle_eq_reply (channel : Channel) : ∃ sent : List (Provider × Event),
    handle rules channel r = ((reply rules channel.isOpen r).answer,
      { channel with waiting := channel.waiting ++ sent }) ∧
    (reply rules channel.isOpen r).lines = sent.map fun (provider, event) => event.line provider := by
  obtain ⟨isOpen, waiting⟩ := channel
  obtain ⟨cause, -, h⟩ | ⟨provider, delivery, event, -, -, h⟩ := handle_cases rules r
  · refine ⟨[], ?_, ?_⟩
    · rw [reply, serve, h, h, List.append_nil]
    · rw [reply, serve, h]
      rfl
  · cases isOpen with
    | true =>
      refine ⟨[(provider, event)], ?_, ?_⟩
      · rw [reply, serve, h, h]
        rfl
      · rw [reply, serve, h]
        rfl
    | false =>
      refine ⟨[], ?_, ?_⟩
      · rw [reply, serve, h, h, List.append_nil]
        rfl
      · rw [reply, serve, h]
        rfl

theorem serve_eq_reply (isOpen : Bool) :
    serve rules { isOpen } r = (reply rules isOpen r, { isOpen }) := by
  obtain ⟨sent, h, -⟩ := handle_eq_reply rules r { isOpen }
  rw [reply, serve, h]

theorem run_eq_map (isOpen : Bool) (occasions : List Occasion) :
    run rules isOpen occasions =
      (requests isOpen occasions).map fun (r, isOpen) => reply rules isOpen r := by
  unfold run
  induction occasions generalizing isOpen with
  | nil => rfl
  | cons occasion rest ih =>
    cases occasion with
    | request r => simp only [serveAll, serve_eq_reply, requests, List.map_cons, ih]
    | close =>
      rw [serveAll, requests, ← ih]
      rfl

theorem requests_append_close (isOpen : Bool) (before after : List Occasion) :
    requests isOpen (before ++ .close :: after) =
      requests isOpen before ++ requests false after := by
  induction before generalizing isOpen with
  | nil => rfl
  | cons occasion rest ih =>
    cases occasion with
    | request r => simp only [List.cons_append, requests, ih]
    | close => exact ih false

theorem run_false (isOpen : Bool) (occasions : List Occasion) :
    run rules false occasions = (run rules isOpen occasions).map Response.shut := by
  simp only [run_eq_map]
  induction occasions generalizing isOpen with
  | nil => rfl
  | cons occasion rest ih =>
    cases occasion with
    | request r =>
      simp only [requests, List.map_cons, ← ih isOpen, reply_false rules r isOpen]
    | close => exact ih false

theorem run_append_close (isOpen : Bool) (before after : List Occasion) :
    run rules isOpen (before ++ .close :: after) =
      run rules isOpen before ++ (run rules true after).map Response.shut := by
  rw [← run_false]
  simp only [run_eq_map, requests_append_close, List.map_append]

end Reply

section Progress

variable (rules : List Rule) {p : Progress} {isOpen : Bool} {responses : List Response}

theorem keeps_request (h : p.Keeps isOpen responses) (r : Request) :
    (p.step rules (.occasion (.request r))).Keeps isOpen
      (responses ++ [reply rules isOpen r]) := by
  obtain ⟨sent, he, hl⟩ := handle_eq_reply rules r p.channel
  rw [h.isOpen_eq] at he hl
  simp only [Progress.step, he]
  refine ⟨rfl, ?_, ?_⟩
  · simp [h.answers_eq]
  · simp [Channel.lines, hl, ← h.lines_eq]

theorem keeps_close (h : p.Keeps isOpen responses) :
    (p.step rules (.occasion .close)).Keeps false responses :=
  ⟨rfl, h.answers_eq, h.lines_eq⟩

theorem keeps_write (h : p.Keeps isOpen responses) :
    (p.step rules .write).Keeps isOpen responses := by
  simp only [Progress.step, Channel.take?]
  cases hw : p.channel.waiting with
  | nil => exact h
  | cons first rest =>
    refine ⟨h.isOpen_eq, h.answers_eq, ?_⟩
    rw [← h.lines_eq]
    simp [Channel.lines, hw]

/-- Whatever happens in whatever order, the receiver and its writer keep up with the responses. -/
theorem keeps_turns (h : p.Keeps isOpen responses) (turns : List Turn) :
    ∃ later, (turns.foldl (Progress.step rules) p).Keeps later
      (responses ++ run rules isOpen (turns.filterMap Turn.occasion?)) := by
  induction turns generalizing p isOpen responses with
  | nil => exact ⟨isOpen, by simpa [run, serveAll] using h⟩
  | cons turn rest ih =>
    rw [List.foldl_cons]
    cases turn with
    | occasion occasion =>
      cases occasion with
      | request r =>
        have hk := ih (keeps_request rules h r)
        simpa only [List.filterMap_cons, Turn.occasion?, run_eq_map, requests, List.map_cons,
          List.append_assoc, List.singleton_append] using hk
      | close => exact ih (keeps_close rules h)
    | write => exact ih (keeps_write rules h)

/-- In each of its turns the writer takes what waits longest, whether the channel is open or not. -/
theorem foldl_write (n : Nat) (p : Progress) :
    (List.replicate n Turn.write).foldl (Progress.step rules) p =
      { p with
        channel := { p.channel with waiting := p.channel.waiting.drop n }
        lines := p.lines ++ p.channel.lines.take n } := by
  induction n generalizing p with
  | zero => simp
  | succ n ih =>
    rw [List.replicate_succ, List.foldl_cons, ih]
    obtain ⟨⟨isOpen, waiting⟩, answers, lines⟩ := p
    cases waiting with
    | nil => simp [Progress.step, Channel.take?, Channel.lines]
    | cons first rest => simp [Progress.step, Channel.take?, Channel.lines]

/-- Nothing is lost: enough turns of the writer write whatever waits. -/
theorem keeps_drained (h : p.Keeps isOpen responses) {n : Nat} (hn : p.channel.waiting.length ≤ n) :
    ((List.replicate n Turn.write).foldl (Progress.step rules) p).lines =
      responses.flatMap Response.lines := by
  have hl : p.channel.lines.length ≤ n := by
    rwa [Channel.lines, List.length_map]
  rw [foldl_write, ← h.lines_eq, List.take_of_length_le hl]

end Progress

/-- A response depends on the rules, its request and whether the channel is open by then. It comes
with one line if it accepts an event, which reports what the response says, and with none if not.
Closing the channel changes the responses that follow and would accept, and no others. In whatever
order receiver and writer take turns, the answers are the same, what is written or waits are the
lines of the responses in their order, and the writer writes all of them in as many turns as there
are events that wait. -/
theorem accepted_events_written_once (rules : List Rule) (isOpen : Bool)
    (occasions : List Occasion) :
    run rules isOpen occasions =
      (requests isOpen occasions).map (fun (r, isOpen) => reply rules isOpen r) ∧
    (∀ r isOpen, Faithful r (reply rules isOpen r)) ∧
    (∀ before after, run rules isOpen (before ++ .close :: after) =
      run rules isOpen before ++ (run rules true after).map Response.shut) ∧
    ∀ turns, turns.filterMap Turn.occasion? = occasions →
      (play rules isOpen turns).answers = (run rules isOpen occasions).map Response.answer ∧
      (play rules isOpen turns).lines ++ (play rules isOpen turns).channel.lines =
        (run rules isOpen occasions).flatMap Response.lines ∧
      ∀ n, (play rules isOpen turns).channel.waiting.length ≤ n →
        (play rules isOpen (turns ++ List.replicate n .write)).lines =
          (run rules isOpen occasions).flatMap Response.lines := by
  refine ⟨run_eq_map rules isOpen occasions, fun r isOpen => reply_faithful rules r isOpen,
    run_append_close rules isOpen, ?_⟩
  rintro turns rfl
  have hs : ({ channel := { isOpen } } : Progress).Keeps isOpen [] := ⟨rfl, rfl, rfl⟩
  obtain ⟨_, hk⟩ := keeps_turns rules hs turns
  refine ⟨hk.answers_eq, hk.lines_eq, fun n hn => ?_⟩
  rw [play, List.foldl_append]
  exact keeps_drained rules hk hn

theorem delivery_eq_ok {r : Request} {d : Delivery} (hb : r.body = d.body)
    (hh : r.headers = d.headers) (hq : r.query? = d.query) : r.delivery = .ok d := by
  have ho : Delivery.ofBody d.body = .ok { body := d.body, body_le := d.body_le } :=
    dif_pos d.body_le
  rw [Request.delivery, hb, ho, hh, hq]
  rfl

def pushRequest : Request where
  target := "/api/webhooks/gitea?secret=k"
  headers := signedPush.headers
  body := signedPush.body

theorem pushRequest_brings : pushRequest.Brings .gitea signedPush pushedEvent := by
  have hb : pushRequest.body = signedPush.body := by rw [pushRequest]
  have hq : pushRequest.query? = signedPush.query := by decide +kernel
  have hr : pushRequest.route? = some "gitea" := by decide +kernel
  have hp : Provider.ofName? "gitea" = some .gitea := by decide +kernel
  exact ⟨⟨"gitea", hr, hp⟩, delivery_eq_ok hb rfl hq, signedPush_decodes⟩

/-- A push before the channel closes and one after it, with a writer that has had no turn yet. -/
def lateTurns : List Turn :=
  [.occasion (.request pushRequest), .occasion .close, .occasion (.request pushRequest)]

theorem lateTurns_written_once :
    lateTurns.filterMap Turn.occasion? =
      [.request pushRequest, .close, .request pushRequest] ∧
    (play [] true (lateTurns ++ [.write])).lines = [pushedEvent.line .gitea] ∧
    Reports (pushedEvent.line .gitea) .gitea "push" "/n" := by
  have ho : lateTurns.filterMap Turn.occasion? =
      [.request pushRequest, .close, .request pushRequest] := by
    simp only [lateTurns, List.filterMap_cons, List.filterMap_nil, Turn.occasion?]
  have ha : Admitted [] .gitea signedPush pushedEvent := .inl rfl
  have hr := reply_of_admitted pushRequest_brings ha
  have hc : reply [] false pushRequest = { answer := .refused .closed, lines := [] } := by
    rw [reply_false [] pushRequest true, hr]
    rfl
  have h := accepted_events_written_once [] true [.request pushRequest, .close, .request pushRequest]
  obtain ⟨-, hl, hd⟩ := h.2.2.2 lateTurns ho
  simp only [h.1, requests, List.map_cons, List.map_nil, hr, hc] at hl hd
  have hw : (play [] true lateTurns).channel.waiting.length ≤ 1 := by
    have hn := congrArg List.length hl
    simp [Channel.lines] at hn
    omega
  have hf : pushedEvent.repo.fullName = "/n" := by decide
  exact ⟨ho, hd 1 hw, hf ▸ reports_line .gitea pushedEvent⟩

end WebhookRelay.Receiver
