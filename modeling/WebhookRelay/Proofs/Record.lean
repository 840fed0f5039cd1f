import WebhookRelay.Event.Reading
import WebhookRelay.Event.Record
import WebhookRelay.Proofs.Json

/-!
The record of an event is read back to the event.
-/

namespace WebhookRelay

open Json Value

section Fields

variable {α : Type} {read : Value → Option α}

@[simp] theorem field?_obj (members : List (String × Value)) (name : String) :
    (Value.obj members).field? read name =
      (match members.filter fun member : String × Value => member.1 == name with
      | [(_, v)] => some v
      | _ => none).bind read := rfl

@[simp] theorem str?_str (s : String) : str? (.str s) = some s := rfl

@[simp] theorem bool?_bool (b : Bool) : bool? (.bool b) = some b := rfl

@[simp] theorem nat?_num (n : Nat) : nat? (.num n) = some n := rfl

@[simp] theorem orNull?_ofOption {write : α → Value} (hr : ∀ a, read (write a) = some a)
    (hn : ∀ a, write a ≠ .null) (a? : Option α) :
    orNull? read (ofOption write a?) = some a? := by
  cases a? with
  | none => rfl
  | some a =>
    show orNull? read (write a) = _
    unfold orNull?
    split
    · next h => exact absurd h (hn a)
    · rw [hr, Option.map_some]

theorem items?_map {write : α → Value} {as : List α} (h : ∀ a ∈ as, read (write a) = some a) :
    items? read (.arr (as.map write)) = some as := by
  show (as.map write).mapM read = some as
  induction as with
  | nil => rfl
  | cons a as ih =>
    rw [List.map_cons, List.mapM_cons, h a List.mem_cons_self,
      ih fun b hb => h b (List.mem_cons_of_mem a hb)]
    rfl

@[simp] theorem orNull?_str (text : Option String) :
    orNull? str? (ofOption .str text) = some text :=
  orNull?_ofOption str?_str nofun text

@[simp] theorem items?_str (texts : List String) :
    items? str? (.arr (texts.map .str)) = some texts :=
  items?_map fun s _ => str?_str s

end Fields

@[simp] theorem Repository.ofJson?_toJson (r : Repository) : ofJson? r.toJson = some r := by
  simp [ofJson?, toJson]

@[simp] theorem User.ofJson?_toJson (u : User) : ofJson? u.toJson = some u := by
  simp [ofJson?, toJson]

@[simp] theorem Reference.ofJson?_toJson (r : Reference) : ofJson? r.toJson = some r := by
  simp [ofJson?, toJson]

@[simp] theorem Issue.ofJson?_toJson (i : Issue) : ofJson? i.toJson = some i := by
  simp [ofJson?, toJson]

@[simp] theorem PullRequest.ofJson?_toJson (p : PullRequest) : ofJson? p.toJson = some p := by
  simp [ofJson?, toJson]

@[simp] theorem Comment.ofJson?_toJson (c : Comment) : ofJson? c.toJson = some c := by
  simp [ofJson?, toJson]

@[simp] theorem Review.ofJson?_toJson (r : Review) : ofJson? r.toJson = some r := by
  simp [ofJson?, toJson]

@[simp] theorem Action.ofJson?_toJson (a : Action) : ofJson? a.toJson = some a := by
  cases a <;> rfl

section Dates

/-- Whether some text is read as this moment. -/
def Timestamp.Readable (t : Timestamp) : Prop := ∃ text, Timestamp.parse text = .ok t

def Commit.dates (c : Commit) : List Timestamp := c.author.date.toList ++ c.committer.date.toList

/-- Whether all dates of a commit are such as are read. -/
def Commit.Dated (c : Commit) : Prop := ∀ t ∈ c.dates, t.Readable

/-- The dates of an event stand on its commits. -/
def Event.dates (e : Event) : List Timestamp :=
  match e.subject with
  | .push p => (p.commit :: p.commits).flatMap Commit.dates
  | _ => []

def Event.Dated (e : Event) : Prop := ∀ t ∈ e.dates, t.Readable

theorem Timestamp.ofJson?_toText {t : Timestamp} (h : t.Readable) :
    ofJson? (.str t.toText) = some t := by
  obtain ⟨text, h⟩ := h
  have hp := Payload.toOption_eq_some_iff.2 (parse_toText h)
  rw [ofJson?, str?_str, Option.bind_eq_bind, Option.bind_some, hp]

theorem Identity.ofJson?_toJson {i : Identity} (h : ∀ t ∈ i.date.toList, t.Readable) :
    ofJson? i.toJson = some i := by
  have hd : orNull? Timestamp.ofJson? (ofOption (fun t => .str t.toText) i.date) = some i.date := by
    cases hd : i.date with
    | none => rfl
    | some t =>
      have ht : t.Readable := h t (by simp [hd])
      show (Timestamp.ofJson? (.str t.toText)).map some = _
      rw [Timestamp.ofJson?_toText ht, Option.map_some]
  simp [ofJson?, toJson, hd]

theorem Commit.ofJson?_toJson {c : Commit} (h : c.Dated) : ofJson? c.toJson = some c := by
  have ha := Identity.ofJson?_toJson fun t ht => h t (List.mem_append_left _ ht)
  have hc := Identity.ofJson?_toJson fun t ht => h t (List.mem_append_right _ ht)
  simp [ofJson?, toJson, ha, hc]

theorem Event.dated_push_iff {p : Push} {repo : Repository} {sender : User} :
    Event.Dated ⟨.push p, repo, sender⟩ ↔ ∀ c ∈ p.commit :: p.commits, c.Dated :=
  List.forall_mem_flatMap

end Dates

/-- The record of an event whose dates can be read is read back to it. -/
theorem Event.ofJson?_toJson {e : Event} (h : e.Dated) : ofJson? e.toJson = some e := by
  obtain ⟨subject, repo, sender⟩ := e
  cases subject with
  | push p =>
    have hd : ∀ c ∈ p.commit :: p.commits, c.Dated := dated_push_iff.1 h
    have hc := Commit.ofJson?_toJson (hd p.commit List.mem_cons_self)
    have hs : items? Commit.ofJson? (.arr (p.commits.map Commit.toJson)) = some p.commits :=
      items?_map fun c hc => Commit.ofJson?_toJson (hd c (List.mem_cons_of_mem _ hc))
    simp [ofJson?, toJson, kind, Subject.members, Subject.kind, Push.members, Subject.ofJson?,
      Push.ofJson?, hc, hs]
  | _ => simp [ofJson?, toJson, kind, Subject.members, Subject.kind, Subject.ofJson?]

end WebhookRelay
