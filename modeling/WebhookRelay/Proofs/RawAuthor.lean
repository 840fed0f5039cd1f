import Mathlib.Data.List.Basic
import WebhookRelay.Dialect.Bitbucket.Author

/-!
The author of a commit comes as one text, a name and then an email in brackets, with blanks wherever
they may stand. What is read of it is written plainly and read again, and stays the same unless
blanks part the brackets that close the email.
-/

namespace WebhookRelay.Bitbucket

open Text

section Email

variable {text email before gap : List Char}

/-- Texts that enclose an email. Blanks may stand around it, and it may be closed more than once. An
email that ends in a bracket itself is parted by blanks from the ones that close it. -/
inductive Encloses (email : List Char) : List Char → Prop
  | unclosed {before after : List Char} (ht : Trimmed email) (hb : Blank before) (ha : Blank after)
      (he : email.getLast? ≠ some '>') : Encloses email (before ++ (email ++ after))
  | closed {before gap after : List Char} (n : Nat) (ht : Trimmed email) (hb : Blank before)
      (hg : Blank gap) (ha : Blank after) (he : email.getLast? = some '>' → gap ≠ []) :
      Encloses email (before ++ (email ++ (gap ++ (List.replicate (n + 1) '>' ++ after))))

theorem getLast?_ne_closing (hb : Blank before) (hg : Blank gap)
    (he : email.getLast? = some '>' → gap ≠ []) :
    (before ++ (email ++ gap)).getLast? ≠ some '>' := by
  rw [List.getLast?_append, List.getLast?_append]
  intro h
  rcases Option.or_eq_some_iff.1 h with h | ⟨-, h⟩
  · rcases Option.or_eq_some_iff.1 h with h | ⟨hn, h⟩
    · exact hg.not_mem rfl (List.mem_of_getLast? h)
    · exact he h (List.getLast?_eq_none_iff.1 hn)
  · exact hb.not_mem rfl (List.mem_of_getLast? h)

theorem dropTail_closing (h : text.getLast? ≠ some '>') (n : Nat) :
    dropTail (· == '>') (text ++ List.replicate n '>') = text := by
  refine dropTail_eq_iff.2 ⟨fun c hc => beq_false_of_ne ?_, List.replicate n '>', by simp, rfl⟩
  rintro rfl
  exact h hc

theorem encloses_emailOf (text : List Char) : Encloses (emailOf text) text := by
  -- The parts that go, from the outside in: `after`, then the brackets, then `before` and `gap`.
  obtain ⟨hend, after, ha, hall⟩ := dropTail_eq_iff.1 (Eq.refl (trimEnd text))
  obtain ⟨hopen, close, hc, hclose⟩ :=
    dropTail_eq_iff.1 (Eq.refl (dropTail (· == '>') (trimEnd text)))
  obtain ⟨ht, before, gap, hb, hg, hinner⟩ := trim_eq_iff.1 (Eq.refl (emailOf text))
  obtain ⟨n, rfl⟩ : ∃ n, close = List.replicate n '>' :=
    ⟨_, List.eq_replicate_of_mem fun c hm => eq_of_beq (hc c hm)⟩
  rw [hinner] at hopen hclose
  rw [hclose] at hend hall
  have he : (emailOf text).getLast? = some '>' → gap ≠ [] := by
    rintro hlast rfl
    exact absurd (hopen '>' (by simp [hlast])) (by decide)
  cases n with
  | zero =>
    have hgap : gap = [] := by
      by_contra hgap
      have hf := hend (gap.getLast hgap) (by simp [List.getLast?_eq_some_getLast hgap])
      rw [hg _ (List.getLast_mem hgap)] at hf
      cases hf
    have h := Encloses.unclosed ht hb ha fun hlast => he hlast hgap
    have hs : before ++ (emailOf text ++ after) = text := by simpa [hgap] using hall.symm
    rwa [hs] at h
  | succ n =>
    have h := Encloses.closed n ht hb hg ha he
    have hs : before ++ (emailOf text ++ (gap ++ (List.replicate (n + 1) '>' ++ after))) =
        text := by simpa only [List.append_assoc] using hall.symm
    rwa [hs] at h

theorem Encloses.emailOf_eq (h : Encloses email text) : emailOf text = email := by
  cases h with
  | @unclosed before after ht hb ha he =>
    by_cases hn : email = []
    · subst hn
      have hend : trimEnd (before ++ ([] ++ after)) = [] :=
        dropTail_eq_iff.2 ⟨nofun, _, List.forall_mem_append.2 ⟨hb, ha⟩, rfl⟩
      rw [emailOf, hend]
      rfl
    · have hlast := List.getLast?_append_of_ne_nil before hn
      have hend : trimEnd (before ++ (email ++ after)) = before ++ email :=
        dropTail_eq_iff.2 ⟨by rw [hlast]; exact ht.back, after, ha, by simp⟩
      have hclose : dropTail (· == '>') (before ++ email) = before ++ email := by
        simpa using dropTail_closing (by rwa [hlast]) 0
      rw [emailOf, hend, hclose]
      exact trim_eq_iff.2 ⟨ht, before, [], hb, nofun, by simp⟩
  | @closed before gap after n ht hb hg ha he =>
    have hend : trimEnd (before ++ (email ++ (gap ++ (List.replicate (n + 1) '>' ++ after)))) =
        before ++ (email ++ gap) ++ List.replicate (n + 1) '>' := by
      refine dropTail_eq_iff.2 ⟨fun c hc => ?_, after, ha, by simp⟩
      rw [List.getLast?_append_of_ne_nil _ (by simp)] at hc
      obtain rfl := List.eq_of_mem_replicate (List.mem_of_getLast? hc)
      rfl
    rw [emailOf, hend, dropTail_closing (getLast?_ne_closing hb hg he)]
    exact trim_eq_iff.2 ⟨ht, before, gap, hb, hg, rfl⟩

theorem emailOf_eq_iff : emailOf text = email ↔ Encloses email text :=
  ⟨fun h => h ▸ encloses_emailOf text, Encloses.emailOf_eq⟩

theorem Encloses.trimmed (h : Encloses email text) : Trimmed email := by
  cases h with
  | unclosed ht | closed n ht => exact ht

theorem Encloses.length_lt (h : Encloses email text) (he : email.getLast? = some '>') :
    email.length + 1 < text.length := by
  cases h with
  | unclosed ht hb ha hn => exact absurd he hn
  | @closed before gap after n ht hb hg ha hn =>
    have hgap : 0 < gap.length := List.length_pos_iff.2 (hn he)
    simp only [List.length_append, List.length_replicate]
    omega

end Email

/-- Whether a text can stand as a name before the brackets. -/
structure IsName (name : String) : Prop where
  trimmed : Trimmed name.toList
  unopened : '<' ∉ name.toList

/-- Whether a text can stand as an email in the brackets. -/
structure IsEmail (email : String) : Prop where
  ne_empty : email ≠ ""
  trimmed : Trimmed email.toList
  unclosed : email.toList.getLast? ≠ some '>'

instance : DecidablePred IsName := fun name =>
  decidable_of_iff (Trimmed name.toList ∧ '<' ∉ name.toList)
    ⟨fun h => ⟨h.1, h.2⟩, fun h => ⟨h.trimmed, h.unopened⟩⟩

instance : DecidablePred IsEmail := fun email =>
  decidable_of_iff (email ≠ "" ∧ Trimmed email.toList ∧ email.toList.getLast? ≠ some '>')
    ⟨fun h => ⟨h.1, h.2.1, h.2.2⟩, fun h => ⟨h.ne_empty, h.trimmed, h.unclosed⟩⟩

/-- Whether a raw author has a name and an email, with blanks around both and with one bracket or
more to close it. -/
inductive WritesAuthor (name email raw : String) : Prop
  | mk {before after lead gap rest : List Char} (n : Nat) (hb : Blank before) (ha : Blank after)
      (hl : Blank lead) (hg : Blank gap) (hr : Blank rest)
      (hw : raw.toList = before ++ (name.toList ++ after) ++
        '<' :: (lead ++ (email.toList ++ (gap ++ (List.replicate (n + 1) '>' ++ rest)))))

/-- Whether a raw author is closed, and after some blanks closed again. -/
inductive ClosedTwice (raw : String) : Prop
  | mk {before gap rest : List Char} (n : Nat) (ho : '<' ∈ before) (hn : gap ≠ [])
      (hg : Blank gap) (hr : Blank rest)
      (hw : raw.toList = before ++ '>' :: (gap ++ (List.replicate (n + 1) '>' ++ rest)))

section Author

variable {raw name email : String} {before rest : List Char}

theorem parseAuthor_of_open (hr : raw.toList = before ++ '<' :: rest) (hb : '<' ∉ before) :
    parseAuthor raw = (String.ofList (trim before),
      if (emailOf rest).isEmpty then none else some (String.ofList (emailOf rest))) := by
  have hs : splitFirst? '<' raw.toList = some (before, rest) := splitFirst?_eq_some_iff.2 ⟨hr, hb⟩
  rw [parseAuthor, hs]

theorem parseAuthor_of_unopened (h : '<' ∉ raw.toList) :
    parseAuthor raw = (String.ofList (trim raw.toList), none) := by
  rw [parseAuthor, splitFirst?_eq_none_iff.2 h]

theorem isName_trim (h : '<' ∉ before) : IsName (String.ofList (trim before)) := by
  obtain ⟨ht, front, back, -, -, hs⟩ := trim_eq_iff.1 (Eq.refl (trim before))
  refine ⟨by rwa [String.toList_ofList], ?_⟩
  rw [String.toList_ofList]
  intro hm
  apply h
  rw [hs]
  exact List.mem_append_right _ (List.mem_append_left _ hm)

theorem isName_parseAuthor (raw : String) : IsName (parseAuthor raw).1 := by
  by_cases h : '<' ∈ raw.toList
  · obtain ⟨before, rest, hr, hb⟩ := List.eq_append_cons_of_mem h
    rw [parseAuthor_of_open hr hb]
    exact isName_trim hb
  · rw [parseAuthor_of_unopened h]
    exact isName_trim h

theorem exists_open (h : parseAuthor raw = (name, some email)) :
    ∃ before rest, raw.toList = before ++ '<' :: rest ∧ '<' ∉ before ∧ email ≠ "" ∧
      Encloses email.toList rest := by
  have ho : '<' ∈ raw.toList := by
    by_contra ho
    rw [parseAuthor_of_unopened ho] at h
    cases h
  obtain ⟨before, rest, hr, hb⟩ := List.eq_append_cons_of_mem ho
  rw [parseAuthor_of_open hr hb] at h
  obtain ⟨-, he⟩ := Prod.mk.inj h
  split at he
  · cases he
  · next hn =>
    cases he
    refine ⟨before, rest, hr, hb, fun hz => hn ?_, ?_⟩
    · simpa using congrArg String.toList hz
    · rw [String.toList_ofList]
      exact encloses_emailOf rest

theorem IsName.parseAuthor_eq (h : IsName name) : parseAuthor name = (name, none) := by
  rw [parseAuthor_of_unopened h.unopened, h.trimmed.trim_eq, String.ofList_toList]

theorem WritesAuthor.parseAuthor_eq (h : WritesAuthor name email raw) (hn : IsName name)
    (ht : Trimmed email.toList) (he : email.toList.getLast? ≠ some '>') :
    parseAuthor raw = (name, if email.toList.isEmpty then none else some email) := by
  cases h with
  | @mk before after lead gap rest n hb ha hl hg hr hw =>
    have ho : isBlank '<' = false := rfl
    have hopen : '<' ∉ before ++ (name.toList ++ after) := by
      simp [hb.not_mem ho, ha.not_mem ho, hn.unopened]
    have hname : trim (before ++ (name.toList ++ after)) = name.toList :=
      trim_eq_iff.2 ⟨hn.trimmed, before, after, hb, ha, rfl⟩
    have hemail := (Encloses.closed n ht hl hg hr fun h => absurd h he).emailOf_eq
    rw [parseAuthor_of_open hw hopen, hname, hemail, String.ofList_toList, String.ofList_toList]

theorem closedTwice_of_getLast? (h : parseAuthor raw = (name, some email))
    (hl : email.toList.getLast? = some '>') : ClosedTwice raw := by
  obtain ⟨before, rest, hr, -, -, he⟩ := exists_open h
  obtain ⟨start, hs⟩ := List.getLast?_eq_some_iff.1 hl
  cases he with
  | unclosed ht hb ha hn => exact absurd hl hn
  | @closed lead gap after n ht hb hg ha hn =>
    have ho : '<' ∈ before ++ '<' :: (lead ++ start) := by simp
    refine .mk n ho (hn hl) hg ha ?_
    rw [hr, hs]
    simp

theorem ClosedTwice.getLast?_eq (hc : ClosedTwice raw) (h : parseAuthor raw = (name, some email)) :
    email.toList.getLast? = some '>' := by
  cases hc with
  | @mk before gap rest n ho hn hg hr hw =>
    obtain ⟨front, inner, rfl, hf⟩ := List.eq_append_cons_of_mem ho
    have hb : isBlank '>' = false := by decide
    -- The last trim drops the gap and stops at the bracket before it.
    obtain ⟨lead, start, hl, ht, hs⟩ := exists_trimmed_concat hb inner
    have hemail := (Encloses.closed n ht hl hg hr fun _ => hn).emailOf_eq
    have hraw : raw.toList = front ++ '<' ::
        (lead ++ ((start ++ ['>']) ++ (gap ++ (List.replicate (n + 1) '>' ++ rest)))) := by
      rw [← List.append_assoc lead, ← hs, hw]
      simp
    rw [parseAuthor_of_open hraw hf, hemail] at h
    obtain ⟨-, he⟩ := Prod.mk.inj h
    rw [if_neg (by simp)] at he
    cases he
    simp

theorem parseAuthor_plain (hn : IsName name) (email : String) :
    parseAuthor (name ++ " <" ++ email ++ ">") =
      (name, if (emailOf (email.toList ++ ['>'])).isEmpty then none
        else some (String.ofList (emailOf (email.toList ++ ['>'])))) := by
  have hw : (name ++ " <" ++ email ++ ">").toList =
      (name.toList ++ [' ']) ++ '<' :: (email.toList ++ ['>']) := by simp
  have hs : Blank [' '] := by decide
  have hopen : '<' ∉ name.toList ++ [' '] := by simp [hn.unopened]
  have hname : trim (name.toList ++ [' ']) = name.toList :=
    trim_eq_iff.2 ⟨hn.trimmed, [], [' '], nofun, hs, rfl⟩
  rw [parseAuthor_of_open hw hopen, hname, String.ofList_toList]

theorem writesAuthor_plain (name email : String) :
    WritesAuthor name email (name ++ " <" ++ email ++ ">") := by
  have hz : Blank [] := nofun
  have hs : Blank [' '] := by decide
  exact .mk 0 hz hs hz hz hz (by simp)

theorem parseAuthor_plain_iff (hn : IsName name) (hne : email ≠ "") (ht : Trimmed email.toList) :
    parseAuthor (name ++ " <" ++ email ++ ">") = (name, some email) ↔
      email.toList.getLast? ≠ some '>' := by
  constructor
  · intro h hl
    rw [parseAuthor_plain hn] at h
    obtain ⟨-, he⟩ := Prod.mk.inj h
    split at he
    · cases he
    · have hs : emailOf (email.toList ++ ['>']) = email.toList := by
        simpa using congrArg String.toList (Option.some.inj he)
      have hlt := (emailOf_eq_iff.1 hs).length_lt hl
      simp at hlt
  · intro hl
    rw [(writesAuthor_plain name email).parseAuthor_eq hn ht hl, if_neg]
    simpa using hne

end Author

/-- A name and an email are read as they were written. Whatever a raw author looks like, it is told
by a name that could have been written, and by an email that is not empty, or by none. -/
theorem written_author_found :
    (∀ name email raw, IsName name → IsEmail email → WritesAuthor name email raw →
      parseAuthor raw = (name, some email)) ∧
    (∀ name raw, IsName name → WritesAuthor name "" raw → parseAuthor raw = (name, none)) ∧
    ∀ raw, IsName (parseAuthor raw).1 ∧
      ∀ email, (parseAuthor raw).2 = some email → email ≠ "" ∧ Trimmed email.toList := by
  refine ⟨fun name email raw hn he hw => ?_, fun name raw hn hw => ?_, fun raw => ?_⟩
  · rw [hw.parseAuthor_eq hn he.trimmed he.unclosed, if_neg]
    simpa using he.ne_empty
  · exact hw.parseAuthor_eq hn ⟨nofun, nofun⟩ nofun
  · refine ⟨isName_parseAuthor raw, fun email he => ?_⟩
    have h : parseAuthor raw = ((parseAuthor raw).1, some email) := Prod.ext rfl he
    obtain ⟨before, rest, -, -, hne, hr⟩ := exists_open h
    exact ⟨hne, hr.trimmed⟩

theorem spacedAuthor_found :
    parseAuthor "\u3000Jane Doe\t<\u00a0j <j>@x >> \n" = ("Jane Doe", some "j <j>@x") ∧
      parseAuthor "Jane Doe < >" = ("Jane Doe", none) ∧ Trimmed "j <j>@x".toList := by
  have hn : IsName "Jane Doe" := by decide
  have hw : WritesAuthor "Jane Doe" "j <j>@x" "\u3000Jane Doe\t<\u00a0j <j>@x >> \n" :=
    @WritesAuthor.mk _ _ _ ['\u3000'] ['\t'] ['\u00a0'] [' '] [' ', '\n'] 1 (by decide)
      (by decide) (by decide) (by decide) (by decide) rfl
  have hz : WritesAuthor "Jane Doe" "" "Jane Doe < >" :=
    @WritesAuthor.mk _ _ _ [] [' '] [' '] [] [] 0 (by decide) (by decide) (by decide) (by decide)
      (by decide) rfl
  obtain ⟨hemail, hnone, hraw⟩ := written_author_found
  have h := hemail _ _ _ hn (by decide) hw
  exact ⟨h, hnone _ _ hn hz, ((hraw _).2 _ (congrArg Prod.snd h)).2⟩

/-- What was read of a raw author is read again from the name alone, or from the name and the email,
unless the email was closed twice. Just then a bracket is left at its end. -/
theorem author_reread_unless_closed_twice (raw name : String) :
    (parseAuthor raw = (name, none) → parseAuthor name = (name, none)) ∧
    ∀ email, parseAuthor raw = (name, some email) →
      (parseAuthor (name ++ " <" ++ email ++ ">")).1 = name ∧
      (parseAuthor (name ++ " <" ++ email ++ ">") = (name, some email) ↔ ¬ ClosedTwice raw) ∧
      (email.toList.getLast? = some '>' ↔ ClosedTwice raw) := by
  have hname : IsName (parseAuthor raw).1 := isName_parseAuthor raw
  constructor
  · intro h
    rw [h] at hname
    exact hname.parseAuthor_eq
  · intro email h
    rw [h] at hname
    obtain ⟨before, rest, -, -, hne, hr⟩ := exists_open h
    have hl : email.toList.getLast? = some '>' ↔ ClosedTwice raw :=
      ⟨closedTwice_of_getLast? h, fun hc => hc.getLast?_eq h⟩
    refine ⟨?_, ?_, hl⟩
    · rw [parseAuthor_plain hname]
    · rw [← hl]
      exact parseAuthor_plain_iff hname hne hr.trimmed

theorem strayBracket_reread :
    parseAuthor "Jane" = ("Jane", none) ∧
      parseAuthor ("J" ++ " <" ++ "j@x" ++ ">") = ("J", some "j@x") ∧
      parseAuthor ("J" ++ " <" ++ "j@x >" ++ ">") ≠ ("J", some "j@x >") := by
  have hnone : parseAuthor " Jane " = ("Jane", none) := by decide
  have hkept : parseAuthor "J< j@x >> " = ("J", some "j@x") := by decide
  have hstray : parseAuthor "J <j@x >  >" = ("J", some "j@x >") := by decide
  obtain ⟨-, hk, hc⟩ := (author_reread_unless_closed_twice _ _).2 _ hkept
  obtain ⟨-, hs, ho⟩ := (author_reread_unless_closed_twice _ _).2 _ hstray
  refine ⟨(author_reread_unless_closed_twice _ _).1 hnone, hk.2 ?_, fun h => hs.1 h ?_⟩
  · rw [← hc]
    decide
  · rw [← ho]
    decide

theorem not_forall_author_reread :
    ¬ ∀ raw name : String,
      (∀ email, parseAuthor raw = (name, some email) →
        parseAuthor (name ++ " <" ++ email ++ ">") = (name, some email)) ∧
      (parseAuthor raw = (name, none) → parseAuthor name = (name, none)) := by
  intro h
  have hstray : parseAuthor "J <a> >" = ("J", some "a>") := by decide
  exact absurd ((h "J <a> >" "J").1 "a>" hstray) (by decide)

end WebhookRelay.Bitbucket
