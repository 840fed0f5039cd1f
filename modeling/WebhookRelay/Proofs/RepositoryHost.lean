import Mathlib.Data.List.TakeWhile
import WebhookRelay.Provider.Guess

/-!
The provider behind the URL of a repository is guessed from its host alone. The login before the
host may hold anything that does not end it, and so may the path, the query and the fragment.
-/

namespace WebhookRelay

namespace Url

/-- The characters of a host that is written plainly. -/
def isPlain (c : Char) : Bool := c.isAlphanum || c == '-' || c == '.'

/-- The characters that `clean` takes off the ends. -/
def isEdge (c : Char) : Bool := c.toNat ≤ 0x20

/-- The characters that `clean` takes out everywhere. -/
def isBreak (c : Char) : Bool := c == '\t' || c == '\n' || c == '\x0d'

/-- Whether a text has nothing but digits and a number that a port may have. -/
def IsPort (text : List Char) : Prop :=
  (∀ c ∈ text, c.isDigit = true) ∧ Nat.ofDigitChars 10 text 0 ≤ 65535

instance : DecidablePred IsPort := fun text =>
  @instDecidableAnd _ _ (List.decidableBAll _ text) inferInstance

/-- Whether nothing in a text ends a login. -/
def IsLogin (text : List Char) : Prop := ∀ c ∈ text, c ∉ "/\\?#".toList

instance : DecidablePred IsLogin := fun text => List.decidableBAll (· ∉ "/\\?#".toList) text

/-- A host with its port. -/
def addressChars (host : List Char) (port : Option (List Char)) : List Char :=
  host ++ (port.map (':' :: ·)).getD []

/-- A host with what may stand between it and the slashes before and after it. -/
def authorityChars (login : Option (List Char)) (host : List Char) (port : Option (List Char)) :
    List Char :=
  (login.map (· ++ ['@'])).getD [] ++ addressChars host port

theorem clean_eq (text : List Char) :
    clean text = (Text.dropTail isEdge (text.dropWhile isEdge)).filter (!isBreak ·) := rfl

section Characters

variable {c : Char}

theorem isEdge_of_isPlain (h : isPlain c = true) : isEdge c = false := by
  have ht : ∀ n ≤ 0x20, isPlain (Char.ofNat n) = false := by decide
  refine decide_eq_false fun hn => ?_
  have hc := ht c.toNat hn
  rw [Char.ofNat_toNat, h] at hc
  cases hc

theorem isEdge_of_all {text : List Char} (h : text.all (!isEdge ·) = true) (hc : c ∈ text) :
    isEdge c = false := by
  simpa using List.all_eq_true.1 h c hc

theorem not_isBreak_of_isEdge (h : isEdge c = false) : (!isBreak c) = true := by
  simp only [isBreak, Bool.not_eq_true', Bool.or_eq_false_iff, beq_eq_false_iff_ne, ne_eq]
  refine ⟨⟨?_, ?_⟩, ?_⟩ <;> rintro rfl <;> cases h

theorem isEnd_web (port : Nat) : (Family.web port).isEnd c = true ↔ c ∈ "/\\?#".toList := by
  have hf : (Family.web port).isSpecial = true := rfl
  simp [Family.isEnd, Family.isSlash, hf, or_assoc]

end Characters

section Authority

variable {port : Option (List Char)} {host : List Char}
  (hh : ∀ c ∈ host, isPlain c = true) (hp : ∀ text ∈ port, IsPort text)

include hh hp

theorem isPlain_of_mem_addressChars {c : Char} (hc : c ∈ addressChars host port) :
    c = ':' ∨ isPlain c = true := by
  rcases List.mem_append.1 hc with hc | hc
  · exact .inr (hh c hc)
  · cases port with
    | none => cases hc
    | some text =>
      refine (List.mem_cons.1 hc).imp_right fun hc => ?_
      have hd := (hp text rfl).1 c hc
      simp [isPlain, Char.isAlphanum, hd]

theorem not_mem_addressChars {c : Char} (hc : c ∈ "/\\?#@[".toList) :
    c ∉ addressChars host port := by
  have ht : "/\\?#@[".toList.all (fun d => d != ':' && !isPlain d) = true := by decide
  have hm := List.all_eq_true.1 ht c hc
  rw [Bool.and_eq_true, bne_iff_ne, Bool.not_eq_true'] at hm
  obtain ⟨hm, hi⟩ := hm
  intro ha
  rcases isPlain_of_mem_addressChars hh hp ha with rfl | h
  · exact hm rfl
  · rw [hi] at h
    cases h

theorem isEdge_of_mem_addressChars {c : Char} (hc : c ∈ addressChars host port) :
    isEdge c = false := by
  rcases isPlain_of_mem_addressChars hh hp hc with rfl | h
  · rfl
  · exact isEdge_of_isPlain h

theorem splitLast?_authorityChars (login : Option (List Char)) :
    Text.splitLast? '@' (authorityChars login host port) =
      login.map fun login => (login, addressChars host port) := by
  have hm : '@' ∉ addressChars host port := not_mem_addressChars hh hp (by decide)
  cases login with
  | none => exact Text.splitLast?_eq_none_iff.2 hm
  | some login =>
    refine Text.splitLast?_eq_some_iff.2 ⟨?_, hm⟩
    simp [authorityChars]

theorem splitPort_addressChars : splitPort false (addressChars host port) = (host, port) := by
  induction host with
  | nil =>
    cases port with
    | none => rfl
    | some text => rfl
  | cons c host ih =>
    have hc := hh c List.mem_cons_self
    have hb : (c == '[') = false := by
      rw [beq_eq_false_iff_ne]
      rintro rfl
      cases hc
    have hm : c ≠ ':' := by
      rintro rfl
      cases hc
    have hr := ih fun d hd => hh d (List.mem_cons_of_mem c hd)
    show splitPort false (c :: addressChars host port) = _
    rw [splitPort, hb, Bool.false_and, Bool.or_false, hr]
    exact hm

omit hh in
theorem readPort_of_isPort (family : Family) :
    ∃ number, readPort family (port.getD []) = .ok (number, []) := by
  have hport : IsPort (port.getD []) := by
    cases port with
    | none => exact ⟨nofun, by decide⟩
    | some text => exact hp text rfl
  obtain ⟨hd, hv⟩ := hport
  generalize port.getD [] = text at hd hv
  have ht : text.takeWhile Char.isDigit = text := List.takeWhile_eq_self_iff.2 hd
  have hr : text.dropWhile Char.isDigit = [] := List.dropWhile_eq_nil_iff.2 hd
  have hn : ¬ 65535 < text.foldl (fun n d => 10 * n + (d.toNat - 0x30)) 0 := Nat.not_lt.2 hv
  unfold readPort
  simp only [ht, hr, hn]
  split
  · next h => simp at h
  · split
    · exact ⟨_, rfl⟩
    · exact ⟨_, rfl⟩

/-- The login is cut off at its last `@`, and then the port, which is sound. So there is nothing
but the host to go wrong. -/
theorem readAuthority_authorityChars (login : Option (List Char)) (hn : host ≠ [])
    (implied : Nat) (bare : Bool) :
    (readAuthority (.web implied) bare (authorityChars login host port)).map
        (fun (authority, rest) => (authority.host, rest)) =
      (Host.ofDomain host).map fun host => (host, []) := by
  obtain ⟨number, hr⟩ := readPort_of_isPort hp (.web implied)
  have he : host.isEmpty = false := by simpa using hn
  have hf : (Family.web implied).isSpecial = true := rfl
  have hs := splitLast?_authorityChars hh hp login
  unfold readAuthority
  rw [hs]
  cases login with
  | none =>
    have ha : authorityChars none host port = addressChars host port := rfl
    simp only [Option.map_none, ha, splitPort_addressChars hh hp, he, hf, hr]
    cases Host.ofDomain host <;> rfl
  | some login =>
    simp only [Option.map_some, splitPort_addressChars hh hp, he, hf, hr]
    cases Host.ofDomain host <;> rfl

omit hh hp in
theorem mem_authorityChars {login : Option (List Char)} {c : Char}
    (hc : c ∈ authorityChars login host port) :
    (∃ text ∈ login, c ∈ text ∨ c = '@') ∨ c ∈ addressChars host port := by
  refine (List.mem_append.1 hc).imp_left fun hc => ?_
  cases login with
  | none => cases hc
  | some text => exact ⟨text, rfl, by simpa using hc⟩

theorem not_isEnd_of_mem_authorityChars {login : Option (List Char)}
    (hl : ∀ text ∈ login, IsLogin text) (implied : Nat) {c : Char}
    (hc : c ∈ authorityChars login host port) : (Family.web implied).isEnd c = false := by
  rw [← Bool.not_eq_true, isEnd_web]
  intro he
  rcases mem_authorityChars hc with ⟨text, ht, hm | rfl⟩ | ha
  · exact hl text ht c hm he
  · revert he
    decide
  · have hs : "/\\?#".toList ⊆ "/\\?#@[".toList := by decide
    exact not_mem_addressChars hh hp (hs he) ha

end Authority

/-- What may follow an authority. -/
def IsTail (text : List Char) : Prop := ∀ c ∈ text.head?, c ∈ "/?#".toList

instance : DecidablePred IsTail := fun text =>
  (Option.decidableForallMem text.head? : Decidable (∀ c ∈ text.head?, c ∈ "/?#".toList))

theorem IsTail.isEnd {tail rest : List Char} {c : Char} (h : IsTail tail) (ht : tail = c :: rest)
    (implied : Nat) : (Family.web implied).isEnd c = true := by
  have hs : "/?#".toList ⊆ "/\\?#".toList := by decide
  rw [isEnd_web]
  exact hs (h c (ht ▸ rfl))

theorem IsTail.clean {tail : List Char} (h : IsTail tail) :
    IsTail ((Text.dropTail isEdge tail).filter (!isBreak ·)) := by
  cases tail with
  | nil => exact h
  | cons c rest =>
    have hm : c ∈ "/?#".toList := h c rfl
    have he : isEdge c = false := isEdge_of_all (by decide) hm
    have hk : ∀ d ∈ [c], isEdge d = false := List.forall_mem_singleton.2 he
    have hd := Text.dropTail_append (List.cons_ne_nil c []) hk [] rest
    rw [List.nil_append, List.singleton_append] at hd
    rw [hd, List.nil_append, List.singleton_append,
      List.filter_cons_of_pos (p := (!isBreak ·)) (not_isBreak_of_isEdge he)]
    exact fun d hd => Option.some.inj hd ▸ hm

section Parse

variable {login port : Option (List Char)} {host : List Char} (hn : host ≠ [])
  (hh : ∀ c ∈ host, isPlain c = true) (hp : ∀ text ∈ port, IsPort text)
  (hl : ∀ text ∈ login, IsLogin text)

include hn hh hp hl

theorem map_readHosted (scheme : List Char) (implied : Nat) {tail : List Char} (ht : IsTail tail) :
    (readHosted scheme (.web implied) (authorityChars login host port ++ tail)).map Url.hostText =
      (Host.ofDomain host).map Host.toText := by
  have hb : tail.takeWhile (!(Family.web implied).isEnd ·) = [] ∧
      tail.dropWhile (!(Family.web implied).isEnd ·) = tail := by
    cases tail with
    | nil => exact ⟨rfl, rfl⟩
    | cons c rest =>
      have hc := ht.isEnd rfl implied
      simp [hc]
  have ha : ∀ c ∈ authorityChars login host port, (!(Family.web implied).isEnd c) = true :=
    fun c hc => by rw [not_isEnd_of_mem_authorityChars hh hp hl implied hc]; rfl
  have hr := readAuthority_authorityChars hh hp login hn implied tail.isEmpty
  have hm : (readHosted scheme (.web implied) (authorityChars login host port ++ tail)).map
      Url.hostText = ((readAuthority (.web implied) tail.isEmpty
        (authorityChars login host port)).map fun (authority, rest) => (authority.host, rest)).map
      fun (host, _) => host.toText := by
    unfold readHosted
    simp only [List.takeWhile_append_of_pos ha, List.dropWhile_append_of_pos ha, hb.1, hb.2,
      List.append_nil]
    cases readAuthority (.web implied) tail.isEmpty (authorityChars login host port) <;> rfl
  rw [hm, hr]
  cases Host.ofDomain host <;> rfl

theorem dropWhile_isSlash (implied : Nat) (tail : List Char) :
    ('/' :: '/' :: (authorityChars login host port ++ tail)).dropWhile
        (Family.web implied).isSlash = authorityChars login host port ++ tail := by
  have hne : authorityChars login host port ≠ [] :=
    List.append_ne_nil_of_right_ne_nil _ (List.append_ne_nil_of_left_ne_nil hn _)
  have hd : (Family.web implied).isSlash '/' = true := rfl
  rw [List.dropWhile_cons_of_pos hd, List.dropWhile_cons_of_pos hd]
  cases ha : authorityChars login host port with
  | nil => exact absurd ha hne
  | cons c rest =>
    have hm : c ∈ authorityChars login host port := ha ▸ List.mem_cons_self
    have he := not_isEnd_of_mem_authorityChars hh hp hl implied hm
    simp only [Family.isEnd, Bool.or_eq_false_iff] at he
    rw [List.cons_append, List.dropWhile_cons_of_neg]
    simp [he.1.1]

omit hl in
/-- Nothing is taken off the host and what stands before it but the breaks in the login. -/
theorem clean_around {lead : List Char} (hle : lead ≠ []) (hlk : ∀ c ∈ lead, isEdge c = false)
    (login : Option (List Char)) (tail : List Char) :
    clean (lead ++ (authorityChars login host port ++ tail)) =
      lead ++ (authorityChars (login.map (·.filter (!isBreak ·))) host port ++
        (Text.dropTail isEdge tail).filter (!isBreak ·)) := by
  have hk {text : List Char} (h : ∀ c ∈ text, isEdge c = false) :
      text.filter (!isBreak ·) = text :=
    List.filter_eq_self.2 fun c hc => not_isBreak_of_isEdge (h c hc)
  have he : ∀ c ∈ addressChars host port, isEdge c = false := fun c hc =>
    isEdge_of_mem_addressChars hh hp hc
  have ha : addressChars host port ≠ [] := List.append_ne_nil_of_left_ne_nil hn _
  have hd (rest : List Char) : (lead ++ rest).dropWhile isEdge = lead ++ rest := by
    cases lead with
    | nil => exact absurd rfl hle
    | cons c lead =>
      rw [List.cons_append, List.dropWhile_cons_of_neg]
      simp [hlk c List.mem_cons_self]
  have ht := Text.dropTail_append ha he (lead ++ (login.map (· ++ ['@'])).getD []) tail
  rw [clean_eq, hd, authorityChars, List.append_assoc, ← List.append_assoc lead, ht]
  simp only [List.filter_append, hk hlk, hk he, authorityChars, List.append_assoc]
  cases login with
  | none => rfl
  | some text =>
    have hm : ['@'].filter (!isBreak ·) = ['@'] := rfl
    simp [hm]

section Scheme

variable {scheme : List Char} (hs : scheme = "https".toList ∨ scheme = "http".toList)

include hs

omit hn hh hp hl in
theorem splitScheme?_web (rest : List Char) :
    splitScheme? (scheme ++ ':' :: rest) = some (scheme, rest) := by
  have hm : ':' ∉ scheme := by rcases hs with rfl | rfl <;> decide
  rw [splitScheme?, Text.splitFirst?_append hm]
  rcases hs with rfl | rfl <;> rfl

omit hn hh hp hl in
theorem exists_ofScheme_web : ∃ implied, Family.ofScheme scheme = .web implied := by
  rcases hs with rfl | rfl
  · exact ⟨443, by decide⟩
  · exact ⟨80, by decide⟩

omit hn hh hp hl in
theorem parse_web {text : String} {rest : List Char} {implied : Nat}
    (hf : Family.ofScheme scheme = .web implied) (hc : clean text.toList = scheme ++ ':' :: rest) :
    parse text =
      readHosted scheme (.web implied) (rest.dropWhile (Family.web implied).isSlash) := by
  rw [parse, hc, splitScheme?_web hs]
  simp only [hf]

/-- Of a URL of the web nothing counts for its host but the host. -/
theorem map_parse {text : String} {tail : List Char} (ht : IsTail tail)
    (he : text.toList =
      scheme ++ "://".toList ++ (authorityChars login host port ++ tail)) :
    (parse text).map Url.hostText = (Host.ofDomain host).map Host.toText := by
  have hle : scheme ++ "://".toList ≠ [] := by simp
  have hlk : ∀ c ∈ scheme ++ "://".toList, isEdge c = false := by
    rcases hs with rfl | rfl <;> exact fun c hc => isEdge_of_all (by decide) hc
  -- The breaks that are taken out of the login leave it within the authority.
  have hl : ∀ text ∈ login.map (·.filter (!isBreak ·)), IsLogin text := by
    intro text ht c hc
    obtain ⟨full, hf, rfl⟩ := Option.map_eq_some_iff.1 ht
    exact hl full hf c (List.mem_filter.1 hc).1
  obtain ⟨implied, hf⟩ := exists_ofScheme_web hs
  have hc := clean_around hn hh hp hle hlk login tail
  rw [← he, List.append_assoc] at hc
  rw [parse_web hs hf hc, ← map_readHosted hn hh hp hl scheme implied ht.clean]
  exact congrArg (fun text => (readHosted scheme (.web implied) text).map Url.hostText)
    (dropWhile_isSlash hn hh hp hl implied _)

end Scheme

end Parse

/-- What may stand around a host in a URL of the web: a login before it, and behind it a port and
anything that ends the host. -/
structure Surroundings where
  scheme : String := "https"
  login : Option String := none
  port : Option String := none
  tail : String := ""
  scheme_web : scheme = "https" ∨ scheme = "http" := by decide
  login_within : ∀ text ∈ login, IsLogin text.toList := by decide
  port_sound : ∀ text ∈ port, IsPort text.toList := by decide
  tail_apart : IsTail tail.toList := by decide

namespace Surroundings

def around (s : Surroundings) (host : String) : String :=
  s.scheme ++ "://" ++ (s.login.map (· ++ "@")).getD "" ++ host ++
    (s.port.map (":" ++ ·)).getD "" ++ s.tail

theorem toList_around (s : Surroundings) (host : String) :
    (s.around host).toList = s.scheme.toList ++ "://".toList ++
      (authorityChars (s.login.map String.toList) host.toList (s.port.map String.toList) ++
        s.tail.toList) := by
  cases hl : s.login <;> cases hp : s.port <;>
    simp [around, authorityChars, addressChars, hl, hp]

theorem hostText_parse_around (s : Surroundings) {host : String} (hn : host ≠ "")
    (hh : ∀ c ∈ host.toList, isPlain c = true) :
    (parse (s.around host)).map Url.hostText =
      (Host.ofDomain host.toList).map Host.toText := by
  have hl : ∀ text ∈ s.login.map String.toList, IsLogin text := by
    intro text ht
    obtain ⟨login, hm, rfl⟩ := Option.map_eq_some_iff.1 ht
    exact s.login_within login hm
  have hp : ∀ text ∈ s.port.map String.toList, IsPort text := by
    intro text ht
    obtain ⟨port, hm, rfl⟩ := Option.map_eq_some_iff.1 ht
    exact s.port_sound port hm
  have hs : s.scheme.toList = "https".toList ∨ s.scheme.toList = "http".toList :=
    s.scheme_web.imp (congrArg _) (congrArg _)
  exact map_parse (by simpa using hn) hh hp hl hs s.tail_apart (s.toList_around host)

end Surroundings

end Url

namespace Provider

open Url

/-- The guess from the host of a URL, if that can be read. -/
def guess : Except Fault String → Except GuessError Provider
  | .error fault => .error (.badUrl fault)
  | .ok host => (ofHost host).mapError .unknownHost

theorem ofUrl_eq_guess (text : String) :
    ofUrl text = guess ((Url.parse text).map Url.hostText) := by
  rw [ofUrl]
  cases Url.parse text <;> rfl

/-- The provider behind a URL is the one that its host tells. Whatever stands around the host can
come, go and change without any effect. -/
theorem provider_of_host_alone {host : String} (hn : host ≠ "")
    (hh : ∀ c ∈ host.toList, isPlain c = true) (s : Surroundings) :
    ofUrl (s.around host) = ofUrl ("https://" ++ host ++ "/") ∧
      ofUrl (s.around host) = guess ((Host.ofDomain host.toList).map Host.toText) := by
  have hg (s : Surroundings) :
      ofUrl (s.around host) = guess ((Host.ofDomain host.toList).map Host.toText) := by
    rw [ofUrl_eq_guess, s.hostText_parse_around hn hh]
  let bare : Surroundings := { tail := "/" }
  have hb : bare.around host = "https://" ++ host ++ "/" := by
    simp [Surroundings.around, bare]
  refine ⟨?_, hg s⟩
  rw [hg s, ← hb, hg bare]

def busy : Surroundings where
  login := some ":token@github"
  port := some "8443"
  tail := "/gitlab?x=@gitea#gogs"

theorem busy_told_by_host :
    busy.around "BitBucket.org" = "https://:token@github@BitBucket.org:8443/gitlab?x=@gitea#gogs" ∧
      ofUrl (busy.around "BitBucket.org") = .ok bitbucket := by
  have hn : "BitBucket.org" ≠ "" := by decide
  have hh : ∀ c ∈ "BitBucket.org".toList, isPlain c = true := List.all_eq_true.1 (by decide)
  have hd : (Host.ofDomain "BitBucket.org".toList).map Host.toText = .ok "bitbucket.org" := by
    decide +kernel
  refine ⟨by decide +kernel, ?_⟩
  rw [(provider_of_host_alone hn hh busy).2, hd]
  decide +kernel

end Provider

end WebhookRelay
