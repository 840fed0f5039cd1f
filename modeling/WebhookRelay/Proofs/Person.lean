import Mathlib.Data.List.TakeWhile
import WebhookRelay.Proofs.Decoding

/-!
The people that payloads tell of, as accounts or as who stands on a commit. Each is called by the
first login that the payload has for them, and has an email only if it says one.
-/

namespace WebhookRelay

/-- Whether a login is the first of the candidates that is not empty, and empty only if all are. -/
inductive FirstFilled (candidates : List String) (login : String) : Prop
  | first (before after : List String) (hc : candidates = before ++ login :: after)
      (hb : ∀ other ∈ before, other = "") (hl : login ≠ "") : FirstFilled candidates login
  | none (hl : login = "") (hc : ∀ other ∈ candidates, other = "") :
      FirstFilled candidates login

/-- What a payload tells of a person. -/
structure Person where
  logins : List String
  name : String := ""
  email : Option String := none
  avatar : String := ""

structure Person.Is (person : Person) (login name : String) (email : Option String)
    (avatar : String) : Prop where
  login : FirstFilled person.logins login
  name_eq : name = person.name
  email_iff : ∀ value, email = some value ↔ person.email = some value ∧ value ≠ ""
  avatar_eq : avatar = person.avatar

def Person.IsUser (person : Person) (user : User) : Prop :=
  person.Is user.login user.name user.email user.avatar

/-- Whether a person stands on a commit as its author or committer. -/
def Person.Signs (person : Person) (identity : Identity) : Prop :=
  person.Is identity.login identity.name identity.email identity.avatar

section FirstFilled

theorem firstFilled_one (login : String) : FirstFilled [login] login := by
  by_cases hl : login = ""
  · exact .none hl fun other ho => (List.mem_singleton.1 ho).trans hl
  · exact .first [] [] rfl nofun hl

theorem firstFilled_firstGiven (text other : String) :
    FirstFilled [text, other] (Dialect.firstGiven text other) := by
  unfold Dialect.firstGiven
  by_cases ht : text = ""
  · rw [if_pos (String.isEmpty_iff.2 ht), ht]
    by_cases ho : other = ""
    · exact .none ho (by simp [ho])
    · exact .first [""] [] rfl (by simp) ho
  · rw [if_neg (mt String.isEmpty_iff.1 ht)]
    exact .first [] [other] rfl nofun ht

end FirstFilled

section Is

variable {person : Person} {login name avatar : String} {email : Option String}

theorem Person.is_given (hl : FirstFilled person.logins login) :
    person.Is login person.name (Dialect.given? person.email) person.avatar :=
  ⟨hl, rfl, fun _ => given?_eq_some_iff, rfl⟩

theorem Person.is_unmailed (hl : FirstFilled person.logins login) (he : person.email = none) :
    person.Is login person.name none person.avatar := by
  have h := person.is_given hl
  rwa [he] at h

theorem Person.Is.email_ne (h : person.Is login name email avatar) : email ≠ some "" := fun he =>
  ((h.email_iff "").1 he).2 rfl

end Is

namespace GitHub

def Account.person (a : Account) : Person where
  logins := [a.login]
  name := a.name.getD ""
  email := a.email
  avatar := a.avatar

def Pusher.person (p : Pusher) : Person where
  logins := [p.name]
  name := p.name
  email := p.email

def Author.person (a : Author) : Person where
  logins := [a.username.getD ""]
  name := a.name
  email := a.email

theorem Account.person_isUser (a : Account) : a.person.IsUser a.toUser :=
  Person.is_given (firstFilled_one a.login)

theorem Pusher.person_isUser (p : Pusher) : p.person.IsUser p.toUser :=
  Person.is_given (firstFilled_one p.name)

theorem Author.person_signs (a : Author) (date : Timestamp) : a.person.Signs (a.toIdentity date) :=
  Person.is_given (firstFilled_one (a.username.getD ""))

end GitHub

namespace GitLab

def Account.person (a : Account) : Person where
  logins := [a.username]
  name := a.name
  email := a.email
  avatar := a.avatar.getD ""

/-- Who pushed, who is told without an account. -/
def PushPayload.person (p : PushPayload) : Person where
  logins := [p.userLogin]
  name := p.userName
  email := p.userEmail
  avatar := p.userAvatar.getD ""

/-- An author comes without a login. -/
def Author.person (a : Author) : Person where
  logins := []
  name := a.name
  email := a.email

theorem Account.person_isUser (a : Account) : a.person.IsUser a.toUser :=
  Person.is_given (firstFilled_one a.username)

theorem PushPayload.person_isUser (p : PushPayload) : p.person.IsUser p.sender :=
  Person.is_given (firstFilled_one p.userLogin)

theorem Author.person_signs (a : Author) (date : Option Timestamp) :
    a.person.Signs (a.toIdentity date) :=
  Person.is_given (.none rfl nofun)

end GitLab

namespace Gitea

def Account.logins (a : Account) : List String := [a.login, a.username]

def Account.person (a : Account) : Person where
  logins := a.logins
  name := a.fullName
  email := a.email
  avatar := a.avatar

def Author.person (a : Author) : Person where
  logins := [a.username]
  name := a.name
  email := a.email

theorem Account.person_isUser (a : Account) : a.person.IsUser a.toUser :=
  Person.is_given (firstFilled_firstGiven a.login a.username)

theorem Author.person_signs (a : Author) (date : Option Timestamp) :
    a.person.Signs (a.toIdentity date) :=
  Person.is_given (firstFilled_one a.username)

end Gitea

namespace Bitbucket

/-- An account comes without an email. -/
def Account.person (a : Account) : Person where
  logins := [a.nickname.getD "", a.displayName]
  name := a.displayName
  avatar := a.links.avatar.href

/-- What stands for a name in a raw author. -/
def rawName (raw : String) : String :=
  String.ofList (Text.trim (raw.toList.takeWhile (· != '<')))

/-- What stands for an email in a raw author. -/
def rawEmail? (raw : String) : Option String :=
  (Text.splitFirst? '<' raw.toList).map fun (_, rest) => String.ofList (emailOf rest)

/-- An author has the logins and the avatar of an account, if one is told. -/
def Author.person (a : Author) : Person where
  logins := (a.user.map fun user => user.person.logins).getD []
  name := rawName a.raw
  email := rawEmail? a.raw
  avatar := (a.user.map fun user => user.person.avatar).getD ""

theorem Account.person_isUser (a : Account) : a.person.IsUser a.toUser :=
  Person.is_unmailed (firstFilled_firstGiven (a.nickname.getD "") a.displayName) rfl

theorem parseAuthor_name (raw : String) : (parseAuthor raw).1 = rawName raw := by
  unfold parseAuthor rawName
  cases hs : Text.splitFirst? '<' raw.toList with
  | none =>
    have hn := Text.splitFirst?_eq_none_iff.1 hs
    have ht : raw.toList.takeWhile (· != '<') = raw.toList :=
      List.takeWhile_eq_self_iff.2 fun c hc => bne_iff_ne.2 (ne_of_mem_of_not_mem hc hn)
    rw [ht]
  | some cut =>
    obtain ⟨hc, hb⟩ := Text.splitFirst?_eq_some_iff.1 hs
    have ht : raw.toList.takeWhile (· != '<') = cut.1 := by
      rw [hc, List.takeWhile_append_of_pos fun c hm => bne_iff_ne.2 (ne_of_mem_of_not_mem hm hb)]
      simp
    rw [ht]

theorem given?_ofList (text : List Char) :
    Dialect.given? (some (String.ofList text)) =
      if text.isEmpty then none else some (String.ofList text) := by
  cases text with
  | nil => rfl
  | cons c text => simp [Dialect.given?]

theorem parseAuthor_email (raw : String) :
    (parseAuthor raw).2 = Dialect.given? (rawEmail? raw) := by
  unfold parseAuthor rawEmail?
  cases Text.splitFirst? '<' raw.toList with
  | none => rfl
  | some cut => exact (given?_ofList (emailOf cut.2)).symm

theorem Author.person_signs (a : Author) (date : Option Timestamp) :
    a.person.Signs (a.toIdentity date) := by
  have hn : (a.toIdentity date).name = a.person.name := parseAuthor_name a.raw
  have he : (a.toIdentity date).email = Dialect.given? a.person.email := parseAuthor_email a.raw
  rw [Person.Signs, hn, he]
  unfold person toIdentity
  cases a.user with
  | none => exact Person.is_given (.none rfl nofun)
  | some user => exact Person.is_given user.person_isUser.login

end Bitbucket

namespace Stash

def Account.person (a : Account) : Person where
  logins := [a.slug, a.name]
  name := a.displayName
  email := a.email

theorem Account.person_isUser (a : Account) : a.person.IsUser a.toUser :=
  Person.is_given (firstFilled_firstGiven a.slug a.name)

end Stash

end WebhookRelay
