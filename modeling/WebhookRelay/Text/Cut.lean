/-!
Cutting lists at a mark, at a lead or at a tail, and searching them for a part. Each result is told
by how the list is put together from it.
-/

namespace WebhookRelay.Text

variable {α : Type} [BEq α]

/-- What stands before and after the first `mark`. -/
def splitFirst? (mark : α) (text : List α) : Option (List α × List α) :=
  match text.dropWhile (· != mark) with
  | [] => none
  | _ :: after => some (text.takeWhile (· != mark), after)

/-- What stands before and after the last `mark`. -/
def splitLast? (mark : α) (text : List α) : Option (List α × List α) :=
  (splitFirst? mark text.reverse).map fun (after, before) => (before.reverse, after.reverse)

/-- What follows `lead`, if the text starts with it. -/
def stripLead? : List α → List α → Option (List α)
  | [], text => some text
  | _ :: _, [] => none
  | l :: lead, c :: text => if l == c then stripLead? lead text else none

/-- What comes before `tail`, if the text ends with it. -/
def stripTail? (tail text : List α) : Option (List α) :=
  (stripLead? tail.reverse text.reverse).map List.reverse

/-- Whether `part` stands somewhere in the text, without a gap. -/
def occurs (part : List α) : List α → Bool
  | [] => part.isEmpty
  | c :: text => part.isPrefixOf (c :: text) || occurs part text

variable [LawfulBEq α] {mark : α} {text before after part lead tail rest : List α}

theorem splitFirst?_cons (c : α) :
    splitFirst? mark (c :: text) =
      if c == mark then some ([], text)
      else (splitFirst? mark text).map fun (before, after) => (c :: before, after) := by
  by_cases h : c = mark
  · simp [splitFirst?, h]
  · simp only [splitFirst?, bne_iff_ne, ne_eq, h, not_false_eq_true, List.dropWhile_cons_of_pos,
      List.takeWhile_cons_of_pos, beq_iff_eq, ↓reduceIte]
    cases text.dropWhile (· != mark) <;> rfl

theorem splitFirst?_append (h : mark ∉ before) :
    splitFirst? mark (before ++ mark :: after) = some (before, after) := by
  induction before with
  | nil => simp [splitFirst?_cons]
  | cons c before ih =>
    rw [List.mem_cons, not_or] at h
    simp [splitFirst?_cons, Ne.symm h.1, ih h.2]

theorem splitFirst?_eq_none_iff : splitFirst? mark text = none ↔ mark ∉ text := by
  induction text with
  | nil => simp [splitFirst?]
  | cons c text ih =>
    by_cases h : c = mark
    · simp [splitFirst?_cons, h]
    · simp [splitFirst?_cons, h, ih, Ne.symm h]

theorem splitFirst?_eq_some_iff :
    splitFirst? mark text = some (before, after) ↔
      text = before ++ mark :: after ∧ mark ∉ before := by
  constructor
  · intro h
    induction text generalizing before with
    | nil => simp [splitFirst?] at h
    | cons c text ih =>
      rw [splitFirst?_cons] at h
      split at h
      · next hc => simp_all
      · next hc =>
        obtain ⟨⟨first, rest⟩, hs, he⟩ := Option.map_eq_some_iff.1 h
        obtain ⟨rfl, rfl⟩ := Prod.mk.inj he
        obtain ⟨rfl, hm⟩ := ih hs
        have hc : mark ≠ c := fun e => hc (by simp [e])
        simp [hc, hm]
  · rintro ⟨rfl, h⟩
    exact splitFirst?_append h

theorem splitLast?_eq_some_iff :
    splitLast? mark text = some (before, after) ↔
      text = before ++ mark :: after ∧ mark ∉ after := by
  simp only [splitLast?, Option.map_eq_some_iff, Prod.exists, Prod.mk.injEq, splitFirst?_eq_some_iff]
  constructor
  · rintro ⟨after, before, ⟨ht, hm⟩, rfl, rfl⟩
    refine ⟨?_, by simpa using hm⟩
    have h := congrArg List.reverse ht
    simpa using h
  · rintro ⟨rfl, hm⟩
    exact ⟨after.reverse, before.reverse, ⟨by simp, by simpa using hm⟩, by simp, by simp⟩

theorem splitLast?_eq_none_iff : splitLast? mark text = none ↔ mark ∉ text := by
  simp [splitLast?, splitFirst?_eq_none_iff]

theorem stripLead?_eq_some_iff : stripLead? lead text = some rest ↔ text = lead ++ rest := by
  fun_induction stripLead? lead text with
  | case1 text => simp [eq_comm]
  | case2 => simp
  | case3 l lead c text h ih => simp [eq_of_beq h, ih]
  | case4 l lead c text h => simp_all [Ne.symm]

theorem stripTail?_eq_some_iff : stripTail? tail text = some rest ↔ text = rest ++ tail := by
  simp only [stripTail?, Option.map_eq_some_iff, stripLead?_eq_some_iff]
  constructor
  · rintro ⟨r, h, rfl⟩
    simpa using congrArg List.reverse h
  · rintro rfl
    exact ⟨rest.reverse, by simp, by simp⟩

theorem stripLead?_toList_eq_some_iff {lead text : String} {rest : List Char} :
    stripLead? lead.toList text.toList = some rest ↔ text = lead ++ String.ofList rest := by
  rw [stripLead?_eq_some_iff, ← String.toList_inj, String.toList_append, String.toList_ofList]

theorem stripLead?_toList_append (lead rest : String) :
    stripLead? lead.toList (lead ++ rest).toList = some rest.toList := by
  rw [stripLead?_toList_eq_some_iff, String.ofList_toList]

theorem stripLead?_toList_eq_none_iff {lead text : String} :
    stripLead? lead.toList text.toList = none ↔ ∀ rest, text ≠ lead ++ rest := by
  constructor
  · rintro h rest rfl
    cases h.symm.trans (stripLead?_toList_append lead rest)
  · intro h
    refine Option.eq_none_iff_forall_ne_some.2 fun rest hr => ?_
    exact h _ (stripLead?_toList_eq_some_iff.1 hr)

theorem stripTail?_toList_eq_some_iff {tail text : String} {rest : List Char} :
    stripTail? tail.toList text.toList = some rest ↔ text = String.ofList rest ++ tail := by
  rw [stripTail?_eq_some_iff, ← String.toList_inj, String.toList_append, String.toList_ofList]

theorem stripTail?_toList_eq_none_iff {tail text : String} :
    stripTail? tail.toList text.toList = none ↔ ∀ rest, text ≠ rest ++ tail := by
  constructor
  · rintro h rest rfl
    have hs : stripTail? tail.toList (rest ++ tail).toList = some rest.toList := by
      rw [stripTail?_toList_eq_some_iff, String.ofList_toList]
    cases h.symm.trans hs
  · intro h
    refine Option.eq_none_iff_forall_ne_some.2 fun rest hr => ?_
    exact h _ (stripTail?_toList_eq_some_iff.1 hr)

theorem occurs_iff : occurs part text = true ↔ part <:+: text := by
  induction text with
  | nil => simp [occurs]
  | cons c text ih => simp [occurs, ih, List.infix_cons_iff]

end WebhookRelay.Text
