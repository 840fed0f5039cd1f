import WebhookRelay.Proofs.Payload.Range
import WebhookRelay.Timestamp.Reading

/-!
A timestamp that was read is read again from what is written of it.
-/

namespace WebhookRelay.Timestamp

open Text

theorem ok_bind {α β : Type} (a : α) (f : α → Except Fault β) : (.ok a >>= f) = f a := rfl

section Digits

variable {width limit n : Nat} {c d : Char} {digits rest : List Char}

theorem isDigit_iff : c.isDigit = true ↔ 48 ≤ c.toNat ∧ c.toNat ≤ 57 := by
  simp only [Char.isDigit, Bool.and_eq_true, decide_eq_true_eq, UInt32.le_iff_toNat_le, ge_iff_le]
  rfl

theorem isBlank_of_isDigit (h : c.isDigit = true) : isBlank c = false := by
  rw [isDigit_iff] at h
  simp only [isBlank, Bool.or_eq_false_iff, Bool.and_eq_false_iff, decide_eq_false_iff_not,
    beq_eq_false_iff_ne]
  omega

theorem trimStart_cons (h : isBlank c = false) : trimStart (c :: rest) = c :: rest := by
  simp [trimStart, h]

theorem isDigit_of_mem_padded (h : c ∈ padded width n) : c.isDigit = true := by
  rcases List.mem_append.1 h with h | h
  · rw [(List.mem_replicate.1 h).2]
    rfl
  · exact Nat.isDigit_of_mem_toDigits (by decide) (by decide) h

theorem padded_ne_nil (width n : Nat) : padded width n ≠ [] := fun h =>
  Nat.toDigits_ne_nil (List.append_eq_nil_iff.1 h).2

theorem length_padded (hw : 0 < width) (h : n < Nat.pow 10 width) :
    (padded width n).length = width := by
  have hl := (Nat.length_toDigits_le_iff (by decide : 1 < 10) hw).2 h
  simp only [padded, List.length_append, List.length_replicate]
  omega

theorem ofDigits_padded (width n : Nat) : ofDigits (padded width n) = n := by
  have h := @Nat.ofDigitChars_ten_toDigits n
  rw [ofDigits, ← Nat.ofDigitChars_eq_foldl, padded, Nat.ofDigitChars_append,
    Nat.ofDigitChars_replicate_zero, Nat.mul_zero, h]

theorem exists_padded_eq_cons (width n : Nat) :
    ∃ c digits, padded width n = c :: digits ∧ c.isDigit = true := by
  cases hp : padded width n with
  | nil => exact absurd hp (padded_ne_nil width n)
  | cons c digits => exact ⟨c, digits, rfl, isDigit_of_mem_padded (hp ▸ List.mem_cons_self)⟩

theorem trimStart_padded (width n : Nat) (rest : List Char) :
    trimStart (padded width n ++ rest) = padded width n ++ rest := by
  obtain ⟨c, digits, hp, hc⟩ := exists_padded_eq_cons width n
  rw [hp]
  exact trimStart_cons (isBlank_of_isDigit hc)

/-- A number ends where its digits do, if that is within the limit. -/
theorem number_append (hd : ∀ d ∈ digits, d.isDigit = true) (hn : digits ≠ [])
    (hl : digits.length ≤ limit) (hc : c.isDigit = false) :
    number limit (digits ++ c :: rest) = .ok (ofDigits digits, c :: rest) := by
  have hs : ((c :: rest).take (limit - digits.length)).takeWhile Char.isDigit = [] := by
    cases limit - digits.length with
    | zero => rfl
    | succ k => simp [hc]
  have ht : ((digits ++ c :: rest).take limit).takeWhile Char.isDigit = digits := by
    rw [List.take_append, List.take_of_length_le hl, List.takeWhile_append_of_pos hd, hs,
      List.append_nil]
  have he : digits.isEmpty = false := by simpa using hn
  simp [number, ht, he]

theorem number_padded (hl : (padded width n).length ≤ limit) (hc : c.isDigit = false) :
    number limit (padded width n ++ c :: rest) = .ok (n, c :: rest) := by
  rw [number_append (fun d => isDigit_of_mem_padded) (padded_ne_nil width n) hl hc,
    ofDigits_padded]

theorem field_padded {low high : Nat} (hl : low ≤ n) (hh : n ≤ high) (hn : high < 100)
    (hc : c.isDigit = false) : field low high (padded 2 n ++ c :: rest) = .ok (n, c :: rest) := by
  have hw : (padded 2 n).length = 2 := length_padded (by decide) (show n < 100 by omega)
  have hb : (decide (low ≤ n) && decide (n ≤ high)) = true := by simp [hl, hh]
  rw [field, trimStart_padded, number_padded (Nat.le_of_eq hw) hc]
  exact if_pos hb

end Digits

section Parts

variable {c : Char} {rest : List Char}

/-- An unsigned year starts with a digit. -/
theorem yearField_unsigned {n : Nat} (hn : n ≤ 9999) :
    yearField (padded 4 n ++ '-' :: rest) = .ok (n, '-' :: rest) := by
  have hw : (padded 4 n).length = 4 := length_padded (by decide) (Nat.lt_succ_of_le hn)
  have hr : number 4 (padded 4 n ++ '-' :: rest) = .ok (n, '-' :: rest) :=
    number_padded (Nat.le_of_eq hw) rfl
  obtain ⟨d, digits, hp, hd⟩ := exists_padded_eq_cons 4 n
  unfold yearField
  rw [trimStart_padded]
  rw [hp] at hr ⊢
  dsimp only
  split
  · next he =>
    rw [(List.cons.inj he).1] at hd
    cases hd
  · next he =>
    rw [(List.cons.inj he).1] at hd
    cases hd
  · rw [hr]
    rfl

/-- A signed year has as many digits as there are. -/
theorem yearField_signed {sign : Int} {mark : Char} {text : List Char} {n : Nat}
    (hm : mark = '-' ∧ sign = -1 ∨ mark = '+' ∧ sign = 1)
    (hr : number text.length text = .ok (n, rest))
    (hi : (decide (-2147483648 ≤ sign * n) && decide (sign * n < 2147483648)) = true) :
    yearField (mark :: text) = .ok (sign * n, rest) := by
  have hb : trimStart (mark :: text) = mark :: text := by
    rcases hm with ⟨rfl, -⟩ | ⟨rfl, -⟩ <;> exact trimStart_cons rfl
  unfold yearField
  rw [hb]
  dsimp only
  split
  · next he =>
    obtain ⟨rfl, rfl⟩ := List.cons.inj he
    obtain rfl : sign = -1 := by simpa using hm
    rw [hr, ok_bind]
    exact if_pos hi
  · next he =>
    obtain ⟨rfl, rfl⟩ := List.cons.inj he
    obtain rfl : sign = 1 := by simpa using hm
    rw [hr, ok_bind]
    exact if_pos hi
  · next hn hp =>
    rcases hm with ⟨rfl, -⟩ | ⟨rfl, -⟩
    · exact absurd rfl (hn text)
    · exact absurd rfl (hp text)

theorem yearField_yearChars {year : Int} (hl : firstYear ≤ year) (hh : year ≤ lastYear) :
    yearField (yearChars year ++ '-' :: rest) = .ok (year, '-' :: rest) := by
  have hr : number (padded 4 year.natAbs ++ '-' :: rest).length
      (padded 4 year.natAbs ++ '-' :: rest) = .ok (year.natAbs, '-' :: rest) :=
    number_padded (by simp) rfl
  have hi : (decide (-2147483648 ≤ year) && decide (year < 2147483648)) = true := by
    unfold firstYear lastYear at *
    rw [Bool.and_eq_true, decide_eq_true_eq, decide_eq_true_eq]
    omega
  unfold yearChars
  split
  · next h =>
    have hy : (year.natAbs : Int) = year := by omega
    rw [yearField_unsigned (by omega), hy]
  · by_cases hs : year < 0
    · have hy : -1 * (year.natAbs : Int) = year := by omega
      rw [← hy] at hi
      rw [if_pos hs, List.cons_append, yearField_signed (.inl ⟨rfl, rfl⟩) hr hi, hy]
    · have hy : 1 * (year.natAbs : Int) = year := by omega
      rw [← hy] at hi
      rw [if_neg hs, List.cons_append, yearField_signed (.inr ⟨rfl, rfl⟩) hr hi, hy]

/-- What may follow the seconds goes on with no digit. -/
theorem offsetChars_eq_cons (offset : Int) :
    ∃ c rest, offsetChars offset = c :: rest ∧
      c.isDigit = false ∧ isBlank c = false ∧ c ≠ '.' := by
  unfold offsetChars
  split
  · exact ⟨'Z', [], rfl, rfl, rfl, by decide⟩
  · split
    · exact ⟨'-', _, rfl, rfl, rfl, by decide⟩
    · exact ⟨'+', _, rfl, rfl, rfl, by decide⟩

theorem fraction_padded {width n : Nat} (hw : 0 < width) (hl : width ≤ 9)
    (hn : n < Nat.pow 10 width) (hc : c.isDigit = false) :
    fraction ('.' :: padded width n ++ c :: rest) =
      .ok (n * Nat.pow 10 (9 - width), c :: rest) := by
  have hp := length_padded hw hn
  have h : number 9 (padded width n ++ c :: rest) = .ok (n, c :: rest) :=
    number_padded (Nat.le_trans (Nat.le_of_eq hp) hl) hc
  have hd : (c :: rest).dropWhile Char.isDigit = c :: rest := by simp [hc]
  have hs : (padded width n ++ c :: rest).length - (c :: rest).length = width := by
    rw [List.length_append, hp]
    omega
  rw [List.cons_append, fraction, h]
  show Except.ok (n * Nat.pow 10 (9 - ((padded width n ++ c :: rest).length - (c :: rest).length)),
    (c :: rest).dropWhile Char.isDigit) = _
  rw [hs, hd]

theorem fraction_fractionChars {nano : Nat} (hn : nano < 1000000000) (hc : c.isDigit = false)
    (hd : c ≠ '.') : fraction (fractionChars nano ++ c :: rest) = .ok (nano, c :: rest) := by
  unfold fractionChars
  split
  · next h =>
    rw [beq_iff_eq.1 h, List.nil_append]
    unfold fraction
    split
    · next he => exact absurd (List.cons.inj he).1 hd
    · rfl
  · split
    · next h =>
      have hm : nano / 1000000 < 1000 := by omega
      have he : nano / 1000000 * 1000000 = nano :=
        Nat.div_mul_cancel (Nat.dvd_of_mod_eq_zero (beq_iff_eq.1 h))
      have hf := @fraction_padded c rest 3 _ (by decide) (by decide) hm hc
      rwa [show Nat.pow 10 (9 - 3) = 1000000 from rfl, he] at hf
    · split
      · next h =>
        have hm : nano / 1000 < 1000000 := by omega
        have he : nano / 1000 * 1000 = nano :=
          Nat.div_mul_cancel (Nat.dvd_of_mod_eq_zero (beq_iff_eq.1 h))
        have hf := @fraction_padded c rest 6 _ (by decide) (by decide) hm hc
        rwa [show Nat.pow 10 (9 - 6) = 1000 from rfl, he] at hf
      · have hf := @fraction_padded c rest 9 _ (by decide) (by decide) hn hc
        rwa [show Nat.pow 10 (9 - 9) = 1 from rfl, Nat.mul_one] at hf

theorem fractionChars_append_eq_cons (nano : Nat) (hc : c.isDigit = false) :
    ∃ d tail, fractionChars nano ++ c :: rest = d :: tail ∧ d.isDigit = false := by
  unfold fractionChars
  split
  · exact ⟨c, rest, rfl, hc⟩
  · split
    · exact ⟨'.', _, rfl, rfl⟩
    · split <;> exact ⟨'.', _, rfl, rfl⟩

theorem pair_padded {n : Nat} (h : n < 100) :
    pair (padded 2 n ++ rest) = .ok ((n / 10, n % 10), rest) := by
  have hp : padded 2 n = [Nat.digitChar (n / 10), Nat.digitChar (n % 10)] := by
    revert n
    decide +kernel
  have hd : digit? (Nat.digitChar (n / 10)) = some (n / 10) ∧
      digit? (Nat.digitChar (n % 10)) = some (n % 10) := by
    revert n
    decide +kernel
  rw [hp]
  simp only [List.cons_append, List.nil_append, pair, hd.1, hd.2]

theorem clockOffset_padded {sign : Int} {n : Nat} (h : n < 1440) :
    clockOffset sign (padded 2 (n / 60) ++ ':' :: padded 2 (n % 60)) = .ok (sign * n, []) := by
  have hm : pair (padded 2 (n % 60)) = .ok ((n % 60 / 10, n % 60 % 10), []) := by
    have hp := @pair_padded [] (n % 60) (by omega)
    rwa [List.append_nil] at hp
  have hd : (':' :: padded 2 (n % 60)).dropWhile (fun c => c == ':' || isBlank c) =
      padded 2 (n % 60) := by
    obtain ⟨d, digits, hp, hd⟩ := exists_padded_eq_cons 2 (n % 60)
    have hc : (d == ':') = false := by
      rw [beq_eq_false_iff_ne]
      rintro rfl
      cases hd
    simp [hp, hc, isBlank_of_isDigit hd]
  have hn : 60 * (10 * (n / 60 / 10) + n / 60 % 10) + (10 * (n % 60 / 10) + n % 60 % 10) = n := by
    omega
  rw [clockOffset, pair_padded (by omega), ok_bind]
  dsimp only
  rw [hd, hm, ok_bind]
  dsimp only
  rw [if_neg (by omega), hn]

theorem offsetField_offsetChars {offset : Int} (h : offset.natAbs < 1440) :
    offsetField (offsetChars offset) = .ok (offset, []) := by
  have hu {c : Char} {text : List Char} (hc : (c.toUpper == 'U') = false) :
      (((c :: text).take 3).map Char.toUpper == utc) = false := by
    simp [utc, beq_eq_false_iff_ne.1 hc]
  unfold offsetChars
  split
  · next h =>
    rw [beq_iff_eq.1 h]
    rfl
  · by_cases hs : offset < 0
    · have hn : -1 * (offset.natAbs : Int) = offset := by omega
      rw [if_pos hs, List.cons_append, offsetField, hu rfl]
      exact (clockOffset_padded h).trans (by rw [hn])
    · have hn : 1 * (offset.natAbs : Int) = offset := by omega
      rw [if_neg hs, List.cons_append, offsetField, hu rfl]
      exact (clockOffset_padded h).trans (by rw [hn])

end Parts

/-- Whether the calendar holds a moment, in its own time and in UTC. -/
structure InCalendar (t : Timestamp) : Prop where
  first_le : firstYear ≤ t.year
  le_last : t.year ≤ lastYear
  stays : leavesCalendar t = false

theorem inCalendar_of_parse {text : String} {t : Timestamp} (h : parse text = .ok t) :
    t.InCalendar := by
  simp only [parse, Payload.bind_eq_ok_iff] at h
  obtain ⟨_, -, _, -, _, -, _, -, _, -, h⟩ := h
  split at h
  · cases h
  · split at h
    · simp only [ok_bind, Payload.bind_eq_ok_iff] at h
      obtain ⟨_, -, _, -, _, -, _, -, _, -, _, -, _, -, h⟩ := h
      split at h
      · cases h
      · split at h
        · cases h
        · next hy =>
          split at h
          · split at h
            · cases h
            · next hc =>
              cases h
              rw [Bool.or_eq_true, not_or] at hy
              exact ⟨by simpa using hy.1, by simpa using hy.2, by simpa using hc⟩
          · cases h
    · cases h

theorem daysInMonth_le (year : Int) (month : Nat) : daysInMonth year month ≤ 31 := by
  unfold daysInMonth
  split
  · split <;> decide
  · split <;> decide

theorem chars_eq (t : Timestamp) :
    t.chars = yearChars t.year ++ '-' :: (padded 2 t.month ++ '-' :: (padded 2 t.day ++
      'T' :: (padded 2 t.hour ++ ':' :: (padded 2 t.minute ++ ':' :: (padded 2 t.second ++
        (fractionChars t.nano ++ offsetChars t.offset)))))) := by
  simp only [chars, List.append_assoc, List.cons_append]

theorem parse_toText_of_inCalendar {t : Timestamp} (h : t.InCalendar) : parse t.toText = .ok t := by
  have hv := t.valid
  have hd := daysInMonth_le t.year t.month
  obtain ⟨c, rest, ho, hc, hb, hp⟩ := offsetChars_eq_cons t.offset
  have hdash (rest : List Char) : mark '-' (trimStart ('-' :: rest)) = .ok rest := rfl
  have hcolon (rest : List Char) : mark ':' (trimStart (':' :: rest)) = .ok rest := rfl
  have hmonth (rest : List Char) :
      field 1 12 (padded 2 t.month ++ '-' :: rest) = .ok (t.month, '-' :: rest) :=
    field_padded (by omega) (by omega) (by decide) rfl
  have hday (rest : List Char) :
      field 1 31 (padded 2 t.day ++ 'T' :: rest) = .ok (t.day, 'T' :: rest) :=
    field_padded (by omega) (by omega) (by decide) rfl
  have hhour (rest : List Char) :
      field 0 23 (padded 2 t.hour ++ ':' :: rest) = .ok (t.hour, ':' :: rest) :=
    field_padded (by omega) (by omega) (by decide) rfl
  have hminute (rest : List Char) :
      field 0 59 (padded 2 t.minute ++ ':' :: rest) = .ok (t.minute, ':' :: rest) :=
    field_padded (by omega) (by omega) (by decide) rfl
  have hsecond : field 0 60 (padded 2 t.second ++ (fractionChars t.nano ++ c :: rest)) =
      .ok (t.second, fractionChars t.nano ++ c :: rest) := by
    obtain ⟨d, tail, hf, hd⟩ := @fractionChars_append_eq_cons c rest t.nano hc
    rw [hf]
    exact field_padded (by omega) (by omega) (by decide) hd
  have hnano : fraction (fractionChars t.nano ++ c :: rest) = .ok (t.nano, c :: rest) :=
    fraction_fractionChars (by omega) hc hp
  have hoffset : offsetField (c :: rest) = .ok (t.offset, []) := by
    rw [← ho]
    exact offsetField_offsetChars (by omega)
  have hyear : (decide (t.year < firstYear) || decide (lastYear < t.year)) = false := by
    have := h.first_le
    have := h.le_last
    simp only [Bool.or_eq_false_iff, decide_eq_false_iff_not]
    omega
  have ht : (trimStart []).isEmpty = true := rfl
  simp only [parse, toText, String.toList_ofList, chars_eq,
    yearField_yearChars h.first_le h.le_last, ok_bind, hdash, hcolon, hmonth, hday, hhour, hminute,
    ho, hsecond, hnano, trimStart_cons hb, hoffset, hyear, ht]
  rw [if_pos (by decide), if_neg (by decide), if_neg (by decide), dif_pos hv]
  exact if_neg (Bool.eq_false_iff.1 h.stays)

theorem parse_toText {text : String} {t : Timestamp} (h : parse text = .ok t) :
    parse t.toText = .ok t :=
  parse_toText_of_inCalendar (inCalendar_of_parse h)

end WebhookRelay.Timestamp
