/-!
Unicode white space, and trimming it off the ends of a text. What is left is told by how the text is
put together from it and the parts that went.
-/

namespace WebhookRelay.Text

/-- The characters with the Unicode property White_Space. -/
def isBlank (c : Char) : Bool :=
  let n := c.toNat
  (0x09 ≤ n && n ≤ 0x0D) || n == 0x20 || n == 0x85 || n == 0xA0 || n == 0x1680 ||
    (0x2000 ≤ n && n ≤ 0x200A) || n == 0x2028 || n == 0x2029 || n == 0x202F || n == 0x205F ||
    n == 0x3000

def trimStart (text : List Char) : List Char := text.dropWhile isBlank

/-- Drops the longest tail of characters for which `p` holds. -/
def dropTail (p : Char → Bool) (text : List Char) : List Char :=
  (text.reverse.dropWhile p).reverse

def trimEnd (text : List Char) : List Char := dropTail isBlank text

def trim (text : List Char) : List Char := trimEnd (trimStart text)

/-- Whether a text has nothing but blanks. -/
def Blank (text : List Char) : Prop := ∀ c ∈ text, isBlank c = true

instance : DecidablePred Blank := fun text => List.decidableBAll _ text

/-- Whether no blank stands at either end of a text. -/
structure Trimmed (text : List Char) : Prop where
  front : ∀ c ∈ text.head?, isBlank c = false
  back : ∀ c ∈ text.getLast?, isBlank c = false

instance : DecidablePred Trimmed := fun text =>
  @decidable_of_iff _ _ ⟨fun h => ⟨h.1, h.2⟩, fun h => ⟨h.front, h.back⟩⟩
    (@instDecidableAnd _ _ (Option.decidableForallMem text.head?)
      (Option.decidableForallMem text.getLast?))

variable {p : Char → Bool} {text kept : List Char}

theorem dropWhile_eq_iff :
    text.dropWhile p = kept ↔ (∀ c ∈ kept.head?, p c = false) ∧
      ∃ front, (∀ c ∈ front, p c = true) ∧ text = front ++ kept := by
  constructor
  · rintro rfl
    refine ⟨fun c hc => ?_, text.takeWhile p, ?_, List.takeWhile_append_dropWhile.symm⟩
    · have h := List.head?_dropWhile_not p text
      rw [Option.mem_def.1 hc] at h
      exact h
    · exact List.all_eq_true.1 List.all_takeWhile
  · rintro ⟨hk, front, hf, rfl⟩
    rw [List.dropWhile_append_of_pos hf]
    cases kept with
    | nil => rfl
    | cons c kept => exact List.dropWhile_cons_of_neg (by simp [hk c rfl])

theorem dropTail_eq_iff :
    dropTail p text = kept ↔ (∀ c ∈ kept.getLast?, p c = false) ∧
      ∃ tail, (∀ c ∈ tail, p c = true) ∧ text = kept ++ tail := by
  rw [dropTail, List.reverse_eq_iff, dropWhile_eq_iff, List.head?_reverse]
  refine and_congr_right fun _ => ?_
  constructor
  · rintro ⟨front, hf, ht⟩
    refine ⟨front.reverse, fun c hc => hf c (List.mem_reverse.1 hc), ?_⟩
    simpa using congrArg List.reverse ht
  · rintro ⟨tail, hp, rfl⟩
    exact ⟨tail.reverse, fun c hc => hp c (List.mem_reverse.1 hc), List.reverse_append⟩

/-- Nothing is dropped before the last characters that stand there without `p`. -/
theorem dropTail_append (hn : kept ≠ []) (hk : ∀ c ∈ kept, p c = false)
    (before after : List Char) :
    dropTail p (before ++ (kept ++ after)) = before ++ (kept ++ dropTail p after) := by
  obtain ⟨hl, tail, ht, hs⟩ := dropTail_eq_iff.1 (Eq.refl (dropTail p after))
  refine dropTail_eq_iff.2 ⟨fun c hc => ?_, tail, ht, ?_⟩
  · rw [List.getLast?_append, List.getLast?_append] at hc
    rcases Option.or_eq_some_iff.1 hc with hc | ⟨hz, -⟩
    · rcases Option.or_eq_some_iff.1 hc with hc | ⟨-, hc⟩
      · exact hl c hc
      · exact hk c (List.mem_of_getLast? hc)
    · exact absurd (List.getLast?_eq_none_iff.1 (Option.or_eq_none_iff.1 hz).2) hn
  · rw [List.append_assoc, List.append_assoc, ← hs]

theorem trim_eq_iff :
    trim text = kept ↔ Trimmed kept ∧
      ∃ before after, Blank before ∧ Blank after ∧ text = before ++ (kept ++ after) := by
  constructor
  · rintro rfl
    obtain ⟨hf, before, hb, ht⟩ := dropWhile_eq_iff.1 (Eq.refl (trimStart text))
    obtain ⟨hl, after, ha, hs⟩ := dropTail_eq_iff.1 (Eq.refl (trim text))
    rw [hs] at hf
    refine ⟨⟨fun c hc => hf c ?_, hl⟩, before, after, hb, ha, ?_⟩
    · rw [List.head?_append, Option.mem_def.1 hc]
      rfl
    · rw [← hs]
      exact ht
  · rintro ⟨hk, before, after, hb, ha, rfl⟩
    cases kept with
    | nil =>
      have hs : trimStart (before ++ ([] ++ after)) = [] := by
        refine dropWhile_eq_iff.2 ⟨nofun, before ++ after, ?_, by simp⟩
        exact List.forall_mem_append.2 ⟨hb, ha⟩
      rw [trim, hs]
      rfl
    | cons c kept =>
      have hs : trimStart (before ++ (c :: kept ++ after)) = c :: kept ++ after :=
        dropWhile_eq_iff.2 ⟨hk.front, before, hb, rfl⟩
      rw [trim, hs]
      exact dropTail_eq_iff.2 ⟨hk.back, after, ha, rfl⟩

theorem Blank.not_mem {c : Char} (h : Blank text) (hc : isBlank c = false) : c ∉ text := by
  intro hm
  rw [h c hm] at hc
  cases hc

theorem Trimmed.trim_eq (h : Trimmed text) : trim text = text :=
  trim_eq_iff.2 ⟨h, [], [], nofun, nofun, by simp⟩

theorem trimStart_concat {c : Char} (h : isBlank c = false) (text : List Char) :
    trimStart (text ++ [c]) = trimStart text ++ [c] := by
  have hc : [c].dropWhile isBlank = [c] := List.dropWhile_cons_of_neg (by simp [h])
  rw [trimStart, trimStart, List.dropWhile_append, hc]
  split
  · next he => rw [List.isEmpty_iff.1 he, List.nil_append]
  · rfl

/-- A text that ends in no blank has blanks to trim at its front alone. -/
theorem exists_trimmed_concat {c : Char} (h : isBlank c = false) (text : List Char) :
    ∃ front rest, Blank front ∧ Trimmed (rest ++ [c]) ∧ text ++ [c] = front ++ (rest ++ [c]) := by
  obtain ⟨hf, front, hb, ht⟩ := dropWhile_eq_iff.1 (trimStart_concat h text)
  exact ⟨front, trimStart text, hb, ⟨hf, by simp [h]⟩, ht⟩

end WebhookRelay.Text
