import WebhookRelay.Signature

/-!
What a signature header accepts: the shared secret itself, or the lead of the header followed by
the keyed digest of the body, with its digits in either case.
-/

namespace WebhookRelay

namespace Text.Hex

/-- A digit in upper case has the value of the one in lower case. -/
theorem value?_eq_some_iff {c : Char} {n : Nat} :
    value? c = some n ↔ n < 16 ∧ c.toLower = digit n := by
  by_cases hc : c.toNat < 128
  · have hd : ∀ k < 128, ∀ n < 16,
        value? (Char.ofNat k) = some n ↔ (Char.ofNat k).toLower = digit n := by decide
    have hb : value? c = some n → n < 16 := by
      simp only [value?]
      grind
    constructor
    · intro h
      refine ⟨hb h, ?_⟩
      simpa using (hd c.toNat hc n (hb h)).1 (by simpa using h)
    · rintro ⟨hn, h⟩
      simpa using (hd c.toNat hc n hn).2 (by simpa using h)
  · have hn : value? c = none := by
      simp only [value?]
      grind
    have hl : c.toLower = c := by
      refine dif_neg ?_
      rintro ⟨-, h⟩
      have : c.toNat ≤ 90 := UInt32.le_iff_toNat_le.1 h
      omega
    have hd : ∀ n < 16, (digit n).toNat < 128 := by decide
    constructor
    · simp [hn]
    · rintro ⟨h16, h⟩
      rw [hl] at h
      exact absurd (h ▸ hd n h16) hc

/-- Whether a byte is the digit of a number, in either case. -/
def Shows (b : UInt8) (n : Nat) : Prop := n < 16 ∧ (Char.ofNat b.toNat).toLower = digit n

theorem value?_of_shows {b : UInt8} {n : Nat} (h : Shows b n) :
    value? (Char.ofNat b.toNat) = some n :=
  value?_eq_some_iff.2 h

theorem digit_inj {m n : Nat} (hm : m < 16) (hn : n < 16) : digit m = digit n ↔ m = n := by
  constructor
  · intro h
    have := congrArg value? h
    simpa [value?_digit hm, value?_digit hn] using this
  · exact congrArg digit

private theorem encode_cons (b : UInt8) (bytes : List UInt8) :
    encode (b :: bytes) = digit (b.toNat / 16) :: digit (b.toNat % 16) :: encode bytes := rfl

private theorem ofNat_eq_iff {x y : Nat} (hx : x < 16) (hy : y < 16) (b : UInt8) :
    UInt8.ofNat (16 * x + y) = b ↔
      digit x = digit (b.toNat / 16) ∧ digit y = digit (b.toNat % 16) := by
  have hb := b.toNat_lt
  rw [digit_inj hx (by omega), digit_inj hy (by omega), ← UInt8.toNat_inj,
    UInt8.toNat_ofNat_of_lt' (by simp only [UInt8.size]; omega)]
  omega

/-- Reading accepts what writing produces, in either case, and nothing else. -/
theorem decode?_eq_some_iff {text : List Char} {bytes : List UInt8} :
    decode? text = some bytes ↔ text.map Char.toLower = encode bytes := by
  fun_induction decode? text generalizing bytes with
  | case1 => cases bytes <;> simp [encode, encodeByte]
  | case2 c =>
    constructor
    · simp
    · intro h
      have := congrArg List.length h
      rw [length_encode] at this
      simp only [List.length_map, List.length_singleton] at this
      omega
  | case3 a b rest x y hy hx ih =>
    obtain ⟨hx, ha⟩ := value?_eq_some_iff.1 hx
    obtain ⟨hy, hb⟩ := value?_eq_some_iff.1 hy
    cases bytes with
    | nil => simp [encode]
    | cons c bytes =>
      simp only [Option.map_eq_some_iff, List.cons.injEq, ih, encode_cons, List.map_cons, ha, hb]
      rw [← and_assoc, ← ofNat_eq_iff hx hy]
      constructor
      · rintro ⟨bytes, hr, hc, rfl⟩
        exact ⟨hc, hr⟩
      · rintro ⟨hc, hr⟩
        exact ⟨bytes, hr, hc, rfl⟩
  | case4 a b rest h =>
    cases bytes with
    | nil => simp [encode]
    | cons c bytes =>
      simp only [encode_cons, List.map_cons, List.cons.injEq, reduceCtorEq, false_iff]
      rintro ⟨ha, hb, -⟩
      exact h _ _ (value?_eq_some_iff.2 ⟨Nat.div_lt_of_lt_mul c.toNat_lt, ha⟩)
        (value?_eq_some_iff.2 ⟨Nat.mod_lt _ (by decide), hb⟩)

end Text.Hex

/-- The digest is read in either case of its digits. -/
theorem Algorithm.verify_iff (algorithm : Algorithm) (key data : List UInt8) (signature : String) :
    algorithm.verify key data signature = true ↔
      signature.map Char.toLower = algorithm.sign key data := by
  have h : algorithm.verify key data signature = true ↔
      Text.Hex.decode? signature.toList = some (algorithm.hash.keyed key data) := by
    unfold Algorithm.verify
    split
    · next bytes hb => simp [hb]
    · next hb => simp [hb]
  rw [h, Text.Hex.decode?_eq_some_iff, Algorithm.sign, ← String.toList_inj, String.toList_map,
    String.toList_ofList]

/-- Differences once found stay in the accumulator. -/
private theorem foldl_diff_eq_zero_iff (pairs : List (UInt8 × UInt8)) (diff : UInt8) :
    pairs.foldl (fun diff (x, y) => diff ||| (x ^^^ y)) diff = 0 ↔
      diff = 0 ∧ ∀ p ∈ pairs, p.1 = p.2 := by
  induction pairs generalizing diff with
  | nil => simp
  | cons p pairs ih =>
    rw [List.foldl_cons, ih, UInt8.or_eq_zero_iff, UInt8.xor_eq_zero_iff, List.forall_mem_cons,
      and_assoc]

private theorem zip_agree_iff {a b : List UInt8} (h : a.length = b.length) :
    (∀ p ∈ a.zip b, p.1 = p.2) ↔ a = b := by
  induction a generalizing b with
  | nil => cases b <;> simp_all
  | cons x a ih =>
    cases b with
    | nil => simp at h
    | cons y b =>
      rw [List.zip_cons_cons, List.forall_mem_cons, ih (Nat.succ.inj h), List.cons.injEq]

theorem tokenMatches_iff (provided expected : String) :
    tokenMatches provided expected = true ↔ provided = expected := by
  simp only [tokenMatches, Bool.and_eq_true, beq_iff_eq]
  rw [foldl_diff_eq_zero_iff, ← Text.Utf8.encode_inj]
  constructor
  · rintro ⟨hl, -, h⟩
    exact (zip_agree_iff hl).1 h
  · intro h
    exact ⟨by rw [h], rfl, (zip_agree_iff (by rw [h])).2 h⟩

/-- The bits in which the bytes at some place differ, as far as both texts reach. -/
def differences (provided expected : List UInt8) : UInt8 :=
  (provided.zip expected).foldl (fun diff (x, y) => diff ||| (x ^^^ y)) 0

theorem tokenMatches_iff_differences (provided expected : String) :
    tokenMatches provided expected = true ↔
      (Text.Utf8.encode provided).length = (Text.Utf8.encode expected).length ∧
        differences (Text.Utf8.encode provided) (Text.Utf8.encode expected) = 0 := by
  simp only [tokenMatches, differences, Bool.and_eq_true, beq_iff_eq]

theorem differences_eq_zero_iff (provided expected : List UInt8) :
    differences provided expected = 0 ↔
      ∀ i (hp : i < provided.length) (he : i < expected.length), provided[i] = expected[i] := by
  have h : (∀ p ∈ provided.zip expected, p.1 = p.2) ↔
      ∀ i (hp : i < provided.length) (he : i < expected.length), provided[i] = expected[i] := by
    rw [List.forall_mem_iff_forall_getElem]
    simp only [List.length_zip, Nat.lt_min, List.getElem_zip]
    constructor
    · intro h i hp he
      exact h i ⟨hp, he⟩
    · intro h i hi
      exact h i hi.1 hi.2
  rw [differences, foldl_diff_eq_zero_iff, h]
  exact and_iff_right rfl

theorem differences_append (token rest : List UInt8) : differences token (token ++ rest) = 0 := by
  rw [differences_eq_zero_iff]
  intro i hp he
  exact (List.getElem_append_left hp).symm

/-- A token is matched by itself alone. The differences to a longer one that starts with it do not
show, and there the lengths decide. -/
theorem token_matched_by_itself_alone :
    (∀ provided expected, tokenMatches provided expected = true ↔ provided = expected) ∧
    (∀ provided expected, tokenMatches provided expected = true ↔
      (Text.Utf8.encode provided).length = (Text.Utf8.encode expected).length ∧
        differences (Text.Utf8.encode provided) (Text.Utf8.encode expected) = 0) ∧
    (∀ provided expected : List UInt8, differences provided expected = 0 ↔
      ∀ i (hp : i < provided.length) (he : i < expected.length), provided[i] = expected[i]) ∧
    (∀ provided expected,
      (Text.Utf8.encode provided).length ≠ (Text.Utf8.encode expected).length →
        tokenMatches provided expected = false) ∧
    ∀ token rest, rest ≠ "" →
      differences (Text.Utf8.encode token) (Text.Utf8.encode (token ++ rest)) = 0 ∧
        tokenMatches token (token ++ rest) = false ∧
        tokenMatches (token ++ rest) token = false := by
  refine ⟨tokenMatches_iff, tokenMatches_iff_differences, differences_eq_zero_iff,
    fun provided expected hl => ?_, fun token rest hr => ?_⟩
  · refine Bool.eq_false_iff.2 fun h => hl ?_
    exact ((tokenMatches_iff_differences provided expected).1 h).1
  · have hne : token ≠ token ++ rest := by
      intro h
      apply hr
      simpa using congrArg String.toList h
    refine ⟨?_, ?_, ?_⟩
    · rw [Text.Utf8.encode_append]
      exact differences_append _ _
    · exact Bool.eq_false_iff.2 fun h => hne ((tokenMatches_iff _ _).1 h)
    · exact Bool.eq_false_iff.2 fun h => hne ((tokenMatches_iff _ _).1 h).symm

/-- A token that lacks its last letter, and one that has as many letters but fewer bytes. -/
theorem cutToken_refused :
    differences (Text.Utf8.encode "s3cre") (Text.Utf8.encode ("s3cre" ++ "t")) = 0 ∧
      tokenMatches "s3cre" ("s3cre" ++ "t") = false ∧
      tokenMatches "clé" "cle" = false := by
  obtain ⟨-, -, -, hlength, hstart⟩ := token_matched_by_itself_alone
  obtain ⟨hd, hm, -⟩ := hstart "s3cre" "t" (by decide)
  exact ⟨hd, hm, hlength "clé" "cle" (by decide)⟩

/-- What the value of a header has to be for its scheme: the key, or the lead of the scheme
followed by the digest. -/
def Scheme.Accepts (scheme : Scheme) (key : String) (body : List UInt8) (value : String) : Prop :=
  match scheme with
  | .token => value = key
  | .digest algorithm lead =>
    ∃ signature, value = lead.getD "" ++ signature ∧
      signature.map Char.toLower = algorithm.sign (Text.Utf8.encode key) body

theorem Scheme.verify_iff (scheme : Scheme) (key : String) (body : List UInt8) (value : String) :
    scheme.verify key body value = true ↔ scheme.Accepts key body value := by
  fun_cases Scheme.verify scheme key body value with
  | case1 => exact tokenMatches_iff value key
  | case2 algorithm =>
    rw [Algorithm.verify_iff]
    simp [Scheme.Accepts]
  | case3 algorithm lead signature h =>
    rw [Algorithm.verify_iff]
    rw [Text.stripLead?_eq_some_iff] at h
    constructor
    · intro hs
      refine ⟨String.ofList signature, ?_, hs⟩
      simp [← String.toList_inj, h]
    · rintro ⟨rest, rfl, hs⟩
      have hr : signature = rest.toList := by simpa using h.symm
      simpa [hr] using hs
  | case4 algorithm lead h =>
    constructor
    · simp
    · rintro ⟨rest, rfl, -⟩
      have hr : Text.stripLead? lead.toList ((some lead).getD "" ++ rest).toList = some rest.toList := by
        rw [Text.stripLead?_eq_some_iff]
        simp
      rw [h] at hr
      cases hr

end WebhookRelay
