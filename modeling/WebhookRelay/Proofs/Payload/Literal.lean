import WebhookRelay.Proofs.Json
import WebhookRelay.Proofs.Signature

/-!
The many ways to write one text as a JSON string. Each of its characters stands for itself, or is
escaped by a letter or by the digits of its UTF-16 code.
-/

namespace WebhookRelay.Payload

open Json Text

/-- Whether four digits, in either case, spell a unit. -/
inductive SpellsUnit (n : Nat) : Spelling → Prop
  | mk {a b c d : UInt8} {i j k l : Nat} (ha : Hex.Shows a i) (hb : Hex.Shows b j)
      (hc : Hex.Shows c k) (hd : Hex.Shows d l) (hn : 16 * (16 * (16 * i + j) + k) + l = n) :
      SpellsUnit n [a, b, c, d]

/-- An escape by the digits of a unit. -/
def unitEscape (digits : Spelling) : Spelling := '\\'.toUInt8 :: 'u'.toUInt8 :: digits

/-- The ways to write a character between the quotes of a string. -/
inductive SpellsChar (c : Char) : Spelling → Prop
  | plain (hc : 0x20 ≤ c.toNat) (hq : c ≠ '"') (hs : c ≠ '\\') : SpellsChar c (bytes [c])
  | letter {e : Char} (h : (c, e) ∈ ('/', '/') :: letters) :
      SpellsChar c ['\\'.toUInt8, e.toUInt8]
  | unit {digits : Spelling} (h : SpellsUnit c.toNat digits) : SpellsChar c (unitEscape digits)
  | pair {lead tail : Spelling} (hc : 0x10000 ≤ c.toNat)
      (hl : SpellsUnit (0xD800 + (c.toNat - 0x10000) / 0x400) lead)
      (ht : SpellsUnit (0xDC00 + (c.toNat - 0x10000) % 0x400) tail) :
      SpellsChar c (unitEscape lead ++ unitEscape tail)

inductive SpellsText : List Char → Spelling → Prop
  | nil : SpellsText [] []
  | cons {c : Char} {text : List Char} {piece spelling : Spelling} (hc : SpellsChar c piece)
      (h : SpellsText text spelling) : SpellsText (c :: text) (piece ++ spelling)

/-- Whether a JSON text is a string that denotes `s`, with or without blanks around it. -/
inductive Literal (s : String) : Spelling → Prop
  | mk {before spelling after : Spelling} (hb : before.all isBlank = true)
      (h : SpellsText s.toList spelling) (ha : after.all isBlank = true) :
      Literal s (before ++ ('"'.toUInt8 :: (spelling ++ ['"'.toUInt8]) ++ after))

section Units

variable {n : Nat} {digits : Spelling}

theorem hexValue?_eq_some_iff {b : UInt8} {k : Nat} : hexValue? b = some k ↔ Hex.Shows b k :=
  Hex.value?_eq_some_iff

theorem isText_of_spellsUnit (h : SpellsUnit n digits) : IsText (unitEscape digits) := by
  cases h with
  | mk ha hb hc hd hn =>
    rw [← hexValue?_eq_some_iff] at ha hb hc hd
    exact .unit (by simp [ha]) (by simp [hb]) (by simp [hc]) (by simp [hd]) .nil

theorem hex_of_spellsUnit (h : SpellsUnit n digits) (rest : Spelling) :
    Spelling.hex (digits ++ rest) = .ok n := by
  cases h with
  | mk ha hb hc hd hn =>
    rw [← hexValue?_eq_some_iff] at ha hb hc hd
    simp [Spelling.hex, ha, hb, hc, hd, hn]

theorem length_of_spellsUnit (h : SpellsUnit n digits) : digits.length = 4 := by
  cases h
  rfl

theorem drop_of_spellsUnit (h : SpellsUnit n digits) (rest : Spelling) :
    (digits ++ rest).drop 4 = rest :=
  List.drop_left' (length_of_spellsUnit h)

/-- A character is no surrogate, so it is read from its unit alone. -/
theorem escape_unit_char {c : Char} (h : SpellsUnit c.toNat digits) (closed : Bool)
    (rest : Spelling) :
    Spelling.escape closed ('u'.toUInt8 :: (digits ++ rest)) = .ok (bytes [c], 5) := by
  have hu : is 'u' 'u'.toUInt8 = true := rfl
  have hv : c.toNat < 0xD800 ∨ 0xDFFF < c.toNat ∧ c.toNat < 0x110000 := c.valid
  have ht : Spelling.isTail c.toNat = false := by simp [Spelling.isTail]; omega
  have hl : Spelling.isLead c.toNat = false := by simp [Spelling.isLead]; omega
  rw [Spelling.escape, if_pos hu, hex_of_spellsUnit h]
  show (if Spelling.isTail c.toNat = true then _ else if Spelling.isLead c.toNat = true then _ else
    Except.ok (Spelling.encoded c.toNat, 5)) = _
  rw [ht, hl, if_neg Bool.false_ne_true, if_neg Bool.false_ne_true, Spelling.encoded,
    Char.ofNat_toNat, bytes, List.flatMap_singleton]

theorem tailUnit_unitEscape (h : SpellsUnit n digits) (ht : Spelling.isTail n = true)
    (closed : Bool) (rest : Spelling) :
    Spelling.tailUnit closed (unitEscape digits ++ rest) = .ok n := by
  have hb : is '\\' '\\'.toUInt8 = true := rfl
  have hu : is 'u' 'u'.toUInt8 = true := rfl
  simp only [unitEscape, List.cons_append, Spelling.tailUnit, hb, hu, hex_of_spellsUnit h,
    Bool.not_true, Bool.false_eq_true, if_false]
  show (if Spelling.isTail n = true then Except.ok n else _) = _
  exact if_pos ht

theorem escape_units {high low : Nat} {lead tail : Spelling} (hl : SpellsUnit high lead)
    (ht : SpellsUnit low tail) (hh : Spelling.isTail high = false)
    (hi : Spelling.isLead high = true) (ho : Spelling.isTail low = true) (closed : Bool)
    (rest : Spelling) :
    Spelling.escape closed ('u'.toUInt8 :: (lead ++ (unitEscape tail ++ rest))) =
      .ok (Spelling.encoded (0x10000 + (high - 0xD800) * 0x400 + (low - 0xDC00)), 11) := by
  have hu : is 'u' 'u'.toUInt8 = true := rfl
  rw [Spelling.escape, if_pos hu, hex_of_spellsUnit hl, drop_of_spellsUnit hl,
    tailUnit_unitEscape ht ho]
  show (if Spelling.isTail high = true then _ else if Spelling.isLead high = true then _
    else _) = _
  rw [hh, hi, if_neg Bool.false_ne_true, if_pos rfl]
  rfl

/-- A character beyond the basic plane is read from its two surrogates. -/
theorem escape_pair {c : Char} {lead tail : Spelling} (hc : 0x10000 ≤ c.toNat)
    (hl : SpellsUnit (0xD800 + (c.toNat - 0x10000) / 0x400) lead)
    (ht : SpellsUnit (0xDC00 + (c.toNat - 0x10000) % 0x400) tail) (closed : Bool)
    (rest : Spelling) :
    Spelling.escape closed ('u'.toUInt8 :: (lead ++ (unitEscape tail ++ rest))) =
      .ok (bytes [c], 11) := by
  have hv : c.toNat < 0xD800 ∨ 0xDFFF < c.toNat ∧ c.toNat < 0x110000 := c.valid
  -- The units are kept apart from the sums that they are, which are needed for their ranges only.
  generalize hm : 0xD800 + (c.toNat - 0x10000) / 0x400 = high at hl
  generalize hn : 0xDC00 + (c.toNat - 0x10000) % 0x400 = low at ht
  have hh : Spelling.isTail high = false := by simp [Spelling.isTail]; omega
  have hi : Spelling.isLead high = true := by simp [Spelling.isLead]; omega
  have ho : Spelling.isTail low = true := by simp [Spelling.isTail]; omega
  have hp : 0x10000 + (high - 0xD800) * 0x400 + (low - 0xDC00) = c.toNat := by omega
  rw [escape_units hl ht hh hi ho, hp, Spelling.encoded, Char.ofNat_toNat, bytes,
    List.flatMap_singleton]

end Units

section Characters

variable {c e : Char} {piece : Spelling}

theorem escape_letters (h : (c, e) ∈ ('/', '/') :: letters) (closed : Bool) (rest : Spelling) :
    Spelling.escape closed (e.toUInt8 :: rest) = .ok (bytes [c], 1) := by
  rcases List.mem_cons.1 h with h | h
  · cases h
    rfl
  · exact escape_letter h closed rest

theorem isText_letters (h : (c, e) ∈ ('/', '/') :: letters) :
    IsText ['\\'.toUInt8, e.toUInt8] := by
  have hl : ∀ pair ∈ ('/', '/') :: letters,
      "\"\\/bfnrt".toList.any (is · pair.2.toUInt8) = true := by decide
  exact .escape (hl _ h) .nil

theorem isText_of_spellsChar (h : SpellsChar c piece) : IsText piece := by
  cases h with
  | plain hc hq hs => exact isText_of_plain (bytes_singleton_isPlain hc hq hs)
  | letter h => exact isText_letters h
  | unit h => exact isText_of_spellsUnit h
  | pair hc hl ht => exact (isText_of_spellsUnit hl).append (isText_of_spellsUnit ht)

theorem spellsChar_of_escapes {text : List Char} (h : Escapes c text) :
    SpellsChar c (bytes text) := by
  cases h with
  | letter h =>
    rw [(bytes_letter h).1]
    exact .letter (List.mem_cons_of_mem _ h)
  | unit hc =>
    obtain ⟨a, b, ht, ha, hb⟩ := bytes_unit hc
    have hz : Hex.Shows '0'.toUInt8 0 := hexValue?_eq_some_iff.1 rfl
    rw [ht]
    exact .unit (.mk hz hz (hexValue?_eq_some_iff.1 ha) (hexValue?_eq_some_iff.1 hb) (by omega))
  | plain hc hq hs => exact .plain hc hq hs

theorem unescape_of_spellsChar (h : SpellsChar c piece) (closed : Bool) (done rest : Spelling) :
    Spelling.unescape closed done (piece ++ rest) =
      Spelling.unescape closed ((bytes [c]).reverse ++ done) rest := by
  cases h with
  | plain hc hq hs => exact unescape_plain (bytes_singleton_isPlain hc hq hs)
  | letter h => exact unescape_slash (escape_letters h closed rest)
  | @unit digits h =>
    have hd : ('u'.toUInt8 :: (digits ++ rest)).drop 5 = rest := drop_of_spellsUnit h rest
    show Spelling.unescape closed done ('\\'.toUInt8 :: 'u'.toUInt8 :: (digits ++ rest)) = _
    rw [unescape_slash (escape_unit_char h closed rest), hd]
  | @pair lead tail hc hl ht =>
    have hd : ('u'.toUInt8 :: (lead ++ (unitEscape tail ++ rest))).drop 11 = rest := by
      have hn : ('u'.toUInt8 :: lead ++ unitEscape tail).length = 11 := by
        simp [unitEscape, length_of_spellsUnit hl, length_of_spellsUnit ht]
      rw [← List.append_assoc, ← List.cons_append]
      exact List.drop_left' hn
    rw [List.append_assoc]
    show Spelling.unescape closed done
      ('\\'.toUInt8 :: 'u'.toUInt8 :: (lead ++ (unitEscape tail ++ rest))) = _
    rw [unescape_slash (escape_pair hc hl ht closed rest), hd]

end Characters

section Texts

variable {text : List Char} {spelling : Spelling}

theorem isText_of_spellsText (h : SpellsText text spelling) : IsText spelling := by
  induction h with
  | nil => exact .nil
  | cons hc _ ih => exact (isText_of_spellsChar hc).append ih

theorem unescape_of_spellsText (h : SpellsText text spelling) (done : Spelling) :
    Spelling.unescape true done spelling = .ok (done.reverse ++ bytes text) := by
  induction h generalizing done with
  | nil =>
    rw [Spelling.unescape.eq_def]
    simp [bytes]
  | cons hc _ ih =>
    rw [unescape_of_spellsChar hc, ih]
    simp [bytes]

theorem decode_of_spellsText {s : String} (h : SpellsText s.toList spelling) :
    spelling.decode = .ok s := by
  have hu : Spelling.unescape true [] spelling = .ok (Utf8.encode s) :=
    unescape_of_spellsText h []
  refine bind_eq_ok_iff.2 ⟨_, hu, ?_⟩
  rw [Utf8.decode?_encode]
  rfl

theorem spellsText_flatMap (text : List Char) :
    SpellsText text (bytes (text.flatMap escapeChar)) := by
  induction text with
  | nil => exact .nil
  | cons c text ih =>
    rw [List.flatMap_cons, bytes_append]
    exact .cons (spellsChar_of_escapes (escapes_escapeChar c)) ih

/-- What is written of a text is one of its literals. -/
theorem literal_compact (s : String) : Literal s (Utf8.encode (Value.str s).compact) := by
  have hb : ([] : Spelling).all isBlank = true := rfl
  have h := Literal.mk hb (spellsText_flatMap s.toList) hb
  rw [List.nil_append, List.append_nil] at h
  rw [Value.encode_compact, Value.chars, bytes_stringChars]
  exact h

/-- Whatever the escapes and blanks, the scanner finds a string that is the text. -/
theorem scan_of_literal {s : String} {text : Spelling} (h : Literal s text) :
    ∃ spelling blanks, scan text = (.text spelling, blanks) ∧ blanks.all isBlank = true ∧
      spelling.decode = .ok s := by
  obtain ⟨hb, h, ha⟩ := h
  next before spelling after =>
  have hw : Writes (.spaced (.text spelling))
      (before ++ ('"'.toUInt8 :: (spelling ++ ['"'.toUInt8]) ++ after)) :=
    .spaced hb (.text (isText_of_spellsText h)) ha
  obtain ⟨blanks, hs, he⟩ := scan_of_writes hw
  exact ⟨spelling, blanks, hs, he, decode_of_spellsText h⟩

end Texts

end WebhookRelay.Payload
