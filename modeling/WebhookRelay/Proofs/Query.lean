import WebhookRelay.Proofs.Authenticity

/-!
The many ways to write parameters into a query. A byte of their UTF-8 text stands for itself, or a
plus for a space, or a percent sign with two digits for any byte. Whichever way is taken, the
parameters are read back, so a secret in a query is compared exactly.
-/

namespace WebhookRelay

namespace Text

theorem Utf8.frontChar?_encodeChar (c : Char) (rest : List UInt8) :
    frontChar? (String.utf8EncodeChar c ++ rest) = some c := by
  have hl : (String.utf8EncodeChar c).length ≤ 4 := by
    rw [String.length_utf8EncodeChar]
    exact c.utf8Size_le_four
  rw [frontChar?, List.take_append, List.take_of_length_le hl, List.toByteArray_append]
  exact ByteArray.utf8DecodeChar?_utf8EncodeChar_append

theorem Utf8.lossyChars_encodeChar (c : Char) (found : List Char) (rest : List UInt8) :
    lossyChars found (String.utf8EncodeChar c ++ rest) = lossyChars (c :: found) rest := by
  have hf := frontChar?_encodeChar c rest
  have hd : (String.utf8EncodeChar c ++ rest).drop c.utf8Size = rest :=
    List.drop_left' (String.length_utf8EncodeChar c)
  cases he : String.utf8EncodeChar c ++ rest with
  | nil =>
    have hl := congrArg List.length he
    have hp := c.utf8Size_pos
    simp only [List.length_append, String.length_utf8EncodeChar, List.length_nil] at hl
    omega
  | cons b bytes =>
    rw [he] at hf hd
    rw [lossyChars]
    simp only [hf, hd]

theorem Utf8.lossyChars_encode (text found : List Char) :
    lossyChars found (text.flatMap String.utf8EncodeChar) = found.reverse ++ text := by
  induction text generalizing found with
  | nil => simp [lossyChars]
  | cons c text ih =>
    rw [List.flatMap_cons, lossyChars_encodeChar, ih, List.reverse_cons, List.append_assoc,
      List.singleton_append]

theorem Utf8.decodeLossy_encode (text : String) : decodeLossy (encode text) = text := by
  rw [decodeLossy, encode, lossyChars_encode, List.reverse_nil, List.nil_append,
    String.ofList_toList]

theorem Percent.decode_cons {b : UInt8} (h : b ≠ 0x25) (rest : List UInt8) :
    decode (b :: rest) = b :: decode rest := by
  rw [decode]
  rintro x y after rfl
  exact absurd rfl h

theorem Percent.decode_code {x y : UInt8} {m n : Nat} (hx : Hex.Shows x m) (hy : Hex.Shows y n)
    (rest : List UInt8) :
    decode (0x25 :: x :: y :: rest) = UInt8.ofNat (16 * m + n) :: decode rest := by
  have hx : hexValue? x = some m := Hex.value?_of_shows hx
  have hy : hexValue? y = some n := Hex.value?_of_shows hy
  simp only [decode, hx, hy]

end Text

namespace Query

open Text

/-- The bytes that do not stand for themselves in a value: `&`, `+` and `%`. -/
def valueMarks : List UInt8 := [0x26, 0x2B, 0x25]

/-- In a name `=` does not stand for itself either. -/
def nameMarks : List UInt8 := 0x3D :: valueMarks

/-- The ways to write a byte, if no byte of `marks` stands for itself. -/
inductive SpellsByte (marks : List UInt8) (b : UInt8) : List UInt8 → Prop
  | plain (h : b ∉ marks) : SpellsByte marks b [b]
  | plus (h : b = 0x20) : SpellsByte marks b [0x2B]
  | code {x y : UInt8} {m n : Nat} (hx : Hex.Shows x m) (hy : Hex.Shows y n)
      (hb : UInt8.ofNat (16 * m + n) = b) : SpellsByte marks b [0x25, x, y]

inductive SpellsBytes (marks : List UInt8) : List UInt8 → List UInt8 → Prop
  | nil : SpellsBytes marks [] []
  | cons {b : UInt8} {bytes piece part : List UInt8} (hb : SpellsByte marks b piece)
      (h : SpellsBytes marks bytes part) : SpellsBytes marks (b :: bytes) (piece ++ part)

/-- The ways to write a parameter. One without a value may be its name alone. -/
inductive SpellsPair : String × String → List UInt8 → Prop
  | full {name value : String} {first second : List UInt8}
      (hn : SpellsBytes nameMarks (Utf8.encode name) first)
      (hv : SpellsBytes valueMarks (Utf8.encode value) second) :
      SpellsPair (name, value) (first ++ 0x3D :: second)
  | bare {name : String} {first : List UInt8}
      (hn : SpellsBytes nameMarks (Utf8.encode name) first) (he : first ≠ []) :
      SpellsPair (name, "") first

/-- Pieces that are parameters, or empty. -/
inductive SpellsPieces : List (String × String) → List (List UInt8) → Prop
  | nil : SpellsPieces [] []
  | empty {pairs : List (String × String)} {pieces : List (List UInt8)}
      (h : SpellsPieces pairs pieces) : SpellsPieces pairs ([] :: pieces)
  | pair {pair : String × String} {piece : List UInt8} {pairs : List (String × String)}
      {pieces : List (List UInt8)} (hp : SpellsPair pair piece) (h : SpellsPieces pairs pieces) :
      SpellsPieces (pair :: pairs) (piece :: pieces)

/-- Whether a query is written from these parameters. -/
def Spells (pairs : List (String × String)) (query : String) : Prop :=
  ∃ pieces, SpellsPieces pairs pieces ∧ Utf8.encode query = [0x26].intercalate pieces

section Parts

variable {marks bytes piece part : List UInt8} {b mark : UInt8}

theorem ne_of_shows {n : Nat} (h : Hex.Shows b n) (hm : Hex.value? (Char.ofNat mark.toNat) = none) :
    mark ≠ b := by
  rintro rfl
  rw [Hex.value?_of_shows h] at hm
  cases hm

/-- A mark that is no digit stands nowhere but in its own part of the syntax. -/
theorem not_mem_of_spellsByte (h : SpellsByte marks b piece) (hm : mark ∈ marks)
    (hd : Hex.value? (Char.ofNat mark.toNat) = none) (hs : mark ≠ 0x2B) (hp : mark ≠ 0x25) :
    mark ∉ piece := by
  cases h with
  | plain h =>
    rw [List.mem_singleton]
    rintro rfl
    exact h hm
  | plus => simpa using hs
  | code hx hy => simpa using ⟨hp, ne_of_shows hx hd, ne_of_shows hy hd⟩

theorem not_mem_of_spellsBytes (h : SpellsBytes marks bytes part) (hm : mark ∈ marks)
    (hd : Hex.value? (Char.ofNat mark.toNat) = none) (hs : mark ≠ 0x2B) (hp : mark ≠ 0x25) :
    mark ∉ part := by
  induction h with
  | nil => exact List.not_mem_nil
  | cons hb _ ih =>
    rw [List.mem_append, not_or]
    exact ⟨not_mem_of_spellsByte hb hm hd hs hp, ih⟩

/-- A plus is a space. -/
def spaced (b : UInt8) : UInt8 := if b == 0x2B then 0x20 else b

theorem decodePart_eq (part : List UInt8) :
    decodePart part = Utf8.decodeLossy (Percent.decode (part.map spaced)) := rfl

theorem spaced_of_ne (h : 0x2B ≠ b) : spaced b = b := if_neg (by simpa using h.symm)

theorem decode_of_spellsByte (h : SpellsByte marks b piece) (hs : 0x2B ∈ marks)
    (hp : 0x25 ∈ marks) (rest : List UInt8) :
    Percent.decode (piece.map spaced ++ rest) = b :: Percent.decode rest := by
  cases h with
  | plain h =>
    have hb : spaced b = b := spaced_of_ne fun he => h (he ▸ hs)
    rw [List.map_singleton, hb, List.singleton_append]
    refine Percent.decode_cons ?_ rest
    rintro rfl
    exact h hp
  | plus h =>
    subst h
    exact Percent.decode_cons (by decide) rest
  | @code x y m n hx hy hb =>
    -- A plus is no digit, so none of the three bytes is taken for a space.
    have hn : Hex.value? (Char.ofNat (0x2B : UInt8).toNat) = none := by decide
    have hc : [0x25, x, y].map spaced = [0x25, x, y] := by
      have hq : spaced 0x25 = 0x25 := rfl
      simp only [List.map_cons, List.map_nil, hq, spaced_of_ne (ne_of_shows hx hn),
        spaced_of_ne (ne_of_shows hy hn)]
    rw [hc, ← hb]
    exact Percent.decode_code hx hy rest

theorem decode_of_spellsBytes (h : SpellsBytes marks bytes part) (hs : 0x2B ∈ marks)
    (hp : 0x25 ∈ marks) : Percent.decode (part.map spaced) = bytes := by
  induction h with
  | nil => rfl
  | cons hb _ ih => rw [List.map_append, decode_of_spellsByte hb hs hp, ih]

theorem decodePart_of_spellsBytes {text : String} (h : SpellsBytes marks (Utf8.encode text) part)
    (hs : 0x2B ∈ marks) (hp : 0x25 ∈ marks) : decodePart part = text := by
  rw [decodePart_eq, decode_of_spellsBytes h hs hp, Utf8.decodeLossy_encode]

theorem spellsBytes_of_plain (h : ∀ b ∈ bytes, b ∉ marks) : SpellsBytes marks bytes bytes := by
  induction bytes with
  | nil => exact .nil
  | cons b bytes ih =>
    obtain ⟨hb, h⟩ := List.forall_mem_cons.1 h
    exact .cons (.plain hb) (ih h)

end Parts

section Pairs

variable {pair : String × String} {piece : List UInt8} {pairs : List (String × String)}
  {pieces : List (List UInt8)} {query : String}

/-- The parameter that a piece between two `&`s tells. -/
def pairOf (piece : List UInt8) : String × String :=
  match splitFirst? 0x3D piece with
  | some (name, value) => (decodePart name, decodePart value)
  | none => (decodePart piece, "")

theorem params_eq (query : String) :
    params query = (((Utf8.encode query).splitOn 0x26).filter (!·.isEmpty)).map pairOf := rfl

theorem end_not_mem {bytes first : List UInt8} (h : SpellsBytes nameMarks bytes first) :
    0x3D ∉ first :=
  not_mem_of_spellsBytes h (by decide) (by decide) (by decide) (by decide)

theorem separator_not_mem {marks bytes part : List UInt8} (h : SpellsBytes marks bytes part)
    (hm : 0x26 ∈ marks) : 0x26 ∉ part :=
  not_mem_of_spellsBytes h hm (by decide) (by decide) (by decide)

theorem pairOf_of_spellsPair (h : SpellsPair pair piece) : pairOf piece = pair := by
  cases h with
  | full hn hv =>
    have hd := decodePart_of_spellsBytes hn (by decide) (by decide)
    have he := decodePart_of_spellsBytes hv (by decide) (by decide)
    simp only [pairOf, splitFirst?_append (end_not_mem hn), hd, he]
  | bare hn =>
    have hd := decodePart_of_spellsBytes hn (by decide) (by decide)
    simp only [pairOf, splitFirst?_eq_none_iff.2 (end_not_mem hn), hd]

theorem ne_nil_of_spellsPair (h : SpellsPair pair piece) : piece ≠ [] := by
  cases h with
  | full => exact List.append_ne_nil_of_right_ne_nil _ (List.cons_ne_nil _ _)
  | bare _ he => exact he

theorem not_mem_of_spellsPair (h : SpellsPair pair piece) : 0x26 ∉ piece := by
  cases h with
  | full hn hv =>
    rw [List.mem_append, List.mem_cons, not_or, not_or]
    exact ⟨separator_not_mem hn (by decide), by decide, separator_not_mem hv (by decide)⟩
  | bare hn => exact separator_not_mem hn (by decide)

theorem not_mem_of_spellsPieces (h : SpellsPieces pairs pieces) :
    ∀ piece ∈ pieces, 0x26 ∉ piece := by
  induction h with
  | nil => nofun
  | empty _ ih => exact List.forall_mem_cons.2 ⟨List.not_mem_nil, ih⟩
  | pair hp _ ih => exact List.forall_mem_cons.2 ⟨not_mem_of_spellsPair hp, ih⟩

theorem map_pairOf_of_spellsPieces (h : SpellsPieces pairs pieces) :
    (pieces.filter (!·.isEmpty)).map pairOf = pairs := by
  induction h with
  | nil => rfl
  | empty _ ih => exact ih
  | pair hp _ ih =>
    have hn := ne_nil_of_spellsPair hp
    rw [List.filter_cons_of_pos (by simpa using hn), List.map_cons, pairOf_of_spellsPair hp, ih]

/-- Parameters are read back from every query that is written from them. -/
theorem params_of_spells (h : Spells pairs query) : params query = pairs := by
  obtain ⟨pieces, hp, hq⟩ := h
  rw [params_eq, hq, ← map_pairOf_of_spellsPieces hp]
  -- Without pieces the query is empty, and is split into one empty piece, which is dropped.
  cases pieces with
  | nil => rfl
  | cons piece pieces =>
    rw [List.splitOn_intercalate _ (not_mem_of_spellsPieces hp) (List.cons_ne_nil _ _)]

end Pairs

section Writing

theorem exists_spellsByte (marks : List UInt8) (b : UInt8) :
    ∃ piece, SpellsByte marks b piece ∧ ∀ c ∈ piece, c < 0x80 := by
  have hd : ∀ n < 16, Hex.Shows (Hex.digit n).toUInt8 n ∧ (Hex.digit n).toUInt8 < 0x80 := by
    unfold Hex.Shows
    decide
  have hb : 16 * (b.toNat / 16) + b.toNat % 16 = b.toNat := Nat.div_add_mod ..
  obtain ⟨hx, hxa⟩ := hd (b.toNat / 16) (Nat.div_lt_of_lt_mul b.toNat_lt)
  obtain ⟨hy, hya⟩ := hd (b.toNat % 16) (Nat.mod_lt _ (by decide))
  refine ⟨_, .code hx hy (by rw [hb, UInt8.ofNat_toNat]), ?_⟩
  simp [hxa, hya]

theorem exists_spellsBytes (marks bytes : List UInt8) :
    ∃ part, SpellsBytes marks bytes part ∧ ∀ c ∈ part, c < 0x80 := by
  induction bytes with
  | nil => exact ⟨[], .nil, nofun⟩
  | cons b bytes ih =>
    obtain ⟨piece, hb, hp⟩ := exists_spellsByte marks b
    obtain ⟨part, h, hr⟩ := ih
    exact ⟨piece ++ part, .cons hb h, List.forall_mem_append.2 ⟨hp, hr⟩⟩

theorem exists_spellsPair (pair : String × String) :
    ∃ piece, SpellsPair pair piece ∧ ∀ c ∈ piece, c < 0x80 := by
  obtain ⟨first, hn, hf⟩ := exists_spellsBytes nameMarks (Utf8.encode pair.1)
  obtain ⟨second, hv, hs⟩ := exists_spellsBytes valueMarks (Utf8.encode pair.2)
  exact ⟨_, .full hn hv,
    List.forall_mem_append.2 ⟨hf, List.forall_mem_cons.2 ⟨by decide, hs⟩⟩⟩

theorem exists_spellsPieces (pairs : List (String × String)) :
    ∃ pieces, SpellsPieces pairs pieces ∧ ∀ c ∈ [0x26].intercalate pieces, c < (0x80 : UInt8) := by
  induction pairs with
  | nil => exact ⟨[], .nil, nofun⟩
  | cons pair pairs ih =>
    obtain ⟨piece, hp, hc⟩ := exists_spellsPair pair
    obtain ⟨pieces, h, hr⟩ := ih
    refine ⟨piece :: pieces, .pair hp h, ?_⟩
    cases pieces with
    | nil => rwa [List.intercalate_singleton]
    | cons next pieces =>
      rw [List.intercalate_cons_cons, List.forall_mem_append, List.forall_mem_append]
      exact ⟨⟨hc, List.forall_mem_singleton.2 (by decide)⟩, hr⟩

/-- Bytes of ASCII are a text. -/
theorem exists_encode {bytes : List UInt8} (h : ∀ b ∈ bytes, b < 0x80) :
    ∃ text, Utf8.encode text = bytes := by
  have hc : ∀ n < 128, String.utf8EncodeChar (Char.ofNat n) = [UInt8.ofNat n] := by decide +kernel
  induction bytes with
  | nil => exact ⟨"", rfl⟩
  | cons b bytes ih =>
    obtain ⟨hb, h⟩ := List.forall_mem_cons.1 h
    obtain ⟨text, rfl⟩ := ih h
    refine ⟨String.ofList (Char.ofNat b.toNat :: text.toList), ?_⟩
    rw [Utf8.encode, String.toList_ofList, List.flatMap_cons, hc _ (UInt8.lt_iff_toNat_lt.1 hb),
      UInt8.ofNat_toNat]
    rfl

/-- Whatever texts the parameters hold, they can be written into a query. -/
theorem exists_spells (pairs : List (String × String)) : ∃ query, Spells pairs query := by
  obtain ⟨pieces, hp, ha⟩ := exists_spellsPieces pairs
  obtain ⟨query, hq⟩ := exists_encode ha
  exact ⟨query, pieces, hp, hq⟩

end Writing

end Query

/-- Whether a delivery tells an event, and has nothing but its query to prove that its sender
knows the key. -/
structure Delivery.LeftToQuery (delivery : Delivery) (provider : Provider) (event : Event) :
    Prop where
  decodes : Decodes provider delivery event
  unsigned : ∀ dialect, provider.dialect? = some dialect → dialect.Unsigned delivery
  unembedded : ∀ other, embedded? provider event delivery.body = some other → other = ""

namespace Delivery

variable {delivery : Delivery} {provider : Provider} {event : Event}

theorem LeftToQuery.withQuery (h : delivery.LeftToQuery provider event) (query : String) :
    (delivery.withQuery query).LeftToQuery provider event :=
  ⟨h.decodes, h.unsigned, h.unembedded⟩

theorem LeftToQuery.proves_iff (h : delivery.LeftToQuery provider event) {key : String} :
    Proves provider delivery event key ↔ delivery.param? secretParam = some key := by
  obtain ⟨⟨dialect, decoded, hd, -, -⟩, hu, he⟩ := h
  rw [proves_iff_of_unsigned hd (hu dialect hd), ← hasSecret_iff, given?_eq_none_iff.2 he]
  rfl

theorem LeftToQuery.parse_eq (h : delivery.LeftToQuery provider event)
    {resolve : Event → Id (Except String String)} {key : String} (hr : resolve event = .ok key)
    (hk : key ≠ "") :
    (parse provider delivery resolve).run =
      if delivery.param? secretParam = some key then .ok event else .error (.forged event) := by
  obtain ⟨dialect, decoded, hd, hc, rfl⟩ := h.decodes
  have hp : (parse provider delivery resolve).run = dialect.judge delivery decoded (.ok key) := by
    rw [parse_of_decoded _ hd hc, ← hr]
    rfl
  rw [hp]
  split
  · next hs => exact judge_of_proves hd hc (h.proves_iff.2 hs)
  · next hs => exact judge_of_not_proves hd hc hk (mt h.proves_iff.1 hs)

theorem withQuery_param?_eq_some_iff {pairs : List (String × String)} {query : String}
    (h : Query.Spells pairs query) {name value : String} :
    (delivery.withQuery query).param? name = some value ↔ FirstGiven pairs (· = name) value := by
  rw [param?_eq_some_iff, ← Query.params_of_spells h]
  simp [withQuery]

theorem withQuery_param?_eq_none_iff {pairs : List (String × String)} {query : String}
    (h : Query.Spells pairs query) {name : String} :
    (delivery.withQuery query).param? name = none ↔ NoneGiven pairs (· = name) := by
  have hf : (delivery.withQuery query).param? name =
      ((Query.params query).find? fun pair => pair.1 == name && !pair.2.isEmpty).map Prod.snd := rfl
  rw [hf, Query.params_of_spells h, find_given_eq_none_iff (· == name)]
  simp only [beq_iff_eq]

end Delivery

/-- Any parameters can be written into a query. However that is done, the first value under a name
that is not empty is found, and a secret among them is compared as it is. -/
theorem written_params_found (pairs : List (String × String)) :
    (∃ query, Query.Spells pairs query) ∧
    ∀ query, Query.Spells pairs query → ∀ delivery : Delivery,
      (∀ name value, (delivery.withQuery query).param? name = some value ↔
        FirstGiven pairs (· = name) value) ∧
      (∀ name, (delivery.withQuery query).param? name = none ↔ NoneGiven pairs (· = name)) ∧
      ∀ provider event, delivery.LeftToQuery provider event →
        ∀ (resolve : Event → Id (Except String String)) (key : String),
          resolve event = .ok key → key ≠ "" →
            (FirstGiven pairs (· = secretParam) key →
              (parse provider (delivery.withQuery query) resolve).run = .ok event) ∧
            (¬ FirstGiven pairs (· = secretParam) key →
              (parse provider (delivery.withQuery query) resolve).run =
                .error (.forged event)) := by
  refine ⟨Query.exists_spells pairs, fun query h delivery =>
    ⟨fun name value => Delivery.withQuery_param?_eq_some_iff h,
      fun name => Delivery.withQuery_param?_eq_none_iff h,
      fun provider event hl resolve key hr hk => ?_⟩⟩
  rw [(hl.withQuery query).parse_eq hr hk, ← Delivery.withQuery_param?_eq_some_iff h]
  exact ⟨fun hs => if_pos hs, fun hs => if_neg hs⟩

/-- A push to Gitea that is not signed and carries no secret. -/
def barePush : Delivery where
  headers := [("x-gitea-event", "push")]
  body := Text.Utf8.encode <|
    "\x7b\"ref\":\"r\",\"before\":\"a\",\"after\":\"b\"," ++
    "\"repository\":\x7b\"id\":1,\"owner\":\x7b\x7d,\"name\":\"n\"\x7d," ++
    "\"pusher\":\x7b\x7d,\"sender\":\x7b\x7d\x7d"
  body_le := by decide +kernel

theorem barePush_decodes : Decodes .gitea barePush pushedEvent := by
  have hn : barePush.header? Gitea.dialect.eventHeader = some "push" := by
    simp only [Delivery.header?, Delivery.sameName_eq]
    decide +kernel
  have h : (Gitea.dialect.decodeDelivery barePush).toOption = some { event := pushedEvent } := by
    rw [decodeDelivery_of_header hn]
    decide +kernel
  exact decodes_of_toOption rfl h

theorem barePush_unsigned : Gitea.dialect.Unsigned barePush := by
  refine signature?_eq_none_iff.1 ?_
  simp only [Dialect.signature?, Delivery.header?, Delivery.sameName_eq]
  decide +kernel

theorem barePush_leftToQuery : barePush.LeftToQuery .gitea pushedEvent where
  decodes := barePush_decodes
  unsigned dialect hd := Option.some.inj hd ▸ barePush_unsigned
  unembedded other ho := by
    have hn : embedded? .gitea pushedEvent barePush.body = none := by decide +kernel
    cases hn.symm.trans ho

/-- A secret with marks of the query in it, between two others. -/
def markedPairs : List (String × String) := [("secret", ""), ("secret", "é +&="), ("secret", "z")]

def markedQuery : String := "&secret=&secret=é+%2b%26=&secret=z"

/-- The resolver that has one key for every event. -/
def always (key : String) (_ : Event) : Id (Except String String) := .ok key

theorem markedQuery_spells : Query.Spells markedPairs markedQuery := by
  have hn : Query.SpellsBytes Query.nameMarks (Text.Utf8.encode "secret")
      (Text.Utf8.encode "secret") := Query.spellsBytes_of_plain (by decide +kernel)
  have hz : Query.SpellsBytes Query.valueMarks (Text.Utf8.encode "z") (Text.Utf8.encode "z") :=
    Query.spellsBytes_of_plain (by decide +kernel)
  have hv : Query.SpellsBytes Query.valueMarks (Text.Utf8.encode "é +&=")
      [0xC3, 0xA9, 0x2B, 0x25, 0x32, 0x62, 0x25, 0x32, 0x36, 0x3D] := by
    have he : Text.Utf8.encode "é +&=" = [0xC3, 0xA9, 0x20, 0x2B, 0x26, 0x3D] := by decide +kernel
    have plain (b : UInt8) (h : b ∉ Query.valueMarks) :
        Query.SpellsByte Query.valueMarks b [b] := .plain h
    have shows (b : UInt8) (n : Nat) (h : Text.Hex.value? (Char.ofNat b.toNat) = some n) :
        Text.Hex.Shows b n := Text.Hex.value?_eq_some_iff.1 h
    rw [he]
    exact .cons (plain 0xC3 (by decide)) <| .cons (plain 0xA9 (by decide)) <| .cons (.plus rfl) <|
      .cons (.code (shows 0x32 2 rfl) (shows 0x62 11 rfl) rfl) <|
      .cons (.code (shows 0x32 2 rfl) (shows 0x36 6 rfl) rfl) <|
      .cons (plain 0x3D (by decide)) .nil
  exact ⟨_, .empty (.pair (.full hn .nil) (.pair (.full hn hv) (.pair (.full hn hz) .nil))),
    by decide +kernel⟩

theorem markedSecret_compared :
    (barePush.withQuery markedQuery).param? "secret" = some "é +&=" ∧
      (parse .gitea (barePush.withQuery markedQuery) (always "é +&=")).run = .ok pushedEvent ∧
      (parse .gitea (barePush.withQuery markedQuery) (always "z")).run =
        .error (.forged pushedEvent) := by
  obtain ⟨hf, -, hp⟩ := (written_params_found markedPairs).2 markedQuery markedQuery_spells barePush
  have hs : FirstGiven markedPairs (· = secretParam) "é +&=" :=
    ⟨[("secret", "")], "secret", [("secret", "z")], rfl, rfl, by decide, by simp [NoneGiven]⟩
  have hm := (hf secretParam "é +&=").2 hs
  have hz : ¬ FirstGiven markedPairs (· = secretParam) "z" := fun h =>
    absurd (hm.symm.trans ((hf secretParam "z").2 h)) (by decide)
  have hl := hp .gitea pushedEvent barePush_leftToQuery
  exact ⟨hm, (hl _ _ rfl (by decide)).1 hs, (hl _ _ rfl (by decide)).2 hz⟩

end WebhookRelay
