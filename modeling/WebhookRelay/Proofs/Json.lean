import WebhookRelay.Json.Reading
import WebhookRelay.Proofs.Payload.Grammar
import WebhookRelay.Proofs.Payload.Range
import WebhookRelay.Proofs.Timestamp

/-!
The compact text of a JSON document: it follows the grammar, holds no control characters, and is
read back to the document.
-/

namespace WebhookRelay.Json

open Payload

/-- The bytes of some characters. -/
def bytes (text : List Char) : Spelling := text.flatMap String.utf8EncodeChar

theorem bytes_append (text others : List Char) :
    bytes (text ++ others) = bytes text ++ bytes others :=
  List.flatMap_append

section Escapes

/-- The characters that are escaped by a letter, with the letter and its byte. -/
def letters : List (Char × Char) := [
  ('"', '"'), ('\\', '\\'), ('\x08', 'b'), ('\x0c', 'f'), ('\n', 'n'), ('\r', 'r'), ('\t', 't')]

/-- How a character stands in a string. -/
inductive Escapes (c : Char) : List Char → Prop
  | letter {e : Char} (h : (c, e) ∈ letters) : Escapes c ['\\', e]
  | unit (hc : c.toNat < 0x20) :
      Escapes c ['\\', 'u', '0', '0', Char.ofNat (0x30 + c.toNat / 16),
        Nat.digitChar (c.toNat % 16)]
  | plain (hc : 0x20 ≤ c.toNat) (hq : c ≠ '"') (hs : c ≠ '\\') : Escapes c [c]

theorem escapes_escapeChar (c : Char) : Escapes c (escapeChar c) := by
  unfold escapeChar
  split
  · next h => exact .letter (by simp [letters, beq_iff_eq.1 h])
  · next hq =>
  split
  · next h => exact .letter (by simp [letters, beq_iff_eq.1 h])
  · next hs =>
  split
  · next h => exact .letter (by simp [letters, beq_iff_eq.1 h])
  split
  · next h => exact .letter (by simp [letters, beq_iff_eq.1 h])
  split
  · next h => exact .letter (by simp [letters, beq_iff_eq.1 h])
  split
  · next h => exact .letter (by simp [letters, beq_iff_eq.1 h])
  split
  · next h => exact .letter (by simp [letters, beq_iff_eq.1 h])
  split
  · next h => exact .unit h
  · next h => exact .plain (Nat.le_of_not_lt h) (by simpa using hq) (by simpa using hs)

theorem not_control_of_escapes {c d : Char} {text : List Char} (h : Escapes c text)
    (hd : d ∈ text) : 0x20 ≤ d.toNat := by
  cases h with
  | @letter e he =>
    have hm : ∀ pair ∈ letters, 0x20 ≤ pair.2.toNat := by decide
    rcases List.mem_cons.1 hd with rfl | hd
    · decide
    · rw [List.mem_singleton.1 hd]
      exact hm _ he
  | unit hc =>
    have hx : ∀ n < 0x20, 0x20 ≤ (Char.ofNat (0x30 + n / 16)).toNat ∧
        0x20 ≤ (Nat.digitChar (n % 16)).toNat := by decide
    simp only [List.mem_cons, List.not_mem_nil, or_false] at hd
    rcases hd with rfl | rfl | rfl | rfl | rfl | rfl
    · decide
    · decide
    · decide
    · decide
    · exact (hx _ hc).1
    · exact (hx _ hc).2
  | plain hc =>
    rw [List.mem_singleton.1 hd]
    exact hc

theorem isPlain_ofNat {n : Nat} (hn : n < 256) (hc : 0x20 ≤ n) (hq : n ≠ 0x22) (hs : n ≠ 0x5C) :
    isPlain (UInt8.ofNat n) = true := by
  revert hn hc hq hs
  revert n
  decide +kernel

theorem bytes_singleton_isPlain {c : Char} (hc : 0x20 ≤ c.toNat) (hq : c ≠ '"') (hs : c ≠ '\\') :
    (bytes [c]).all isPlain = true := by
  have hq : c.toNat ≠ 0x22 := fun h => hq (Char.toNat_inj.1 h)
  have hs : c.toNat ≠ 0x5C := fun h => hs (Char.toNat_inj.1 h)
  have hv : c.val.toNat = c.toNat := rfl
  rw [bytes, List.flatMap_singleton]
  unfold String.utf8EncodeChar
  rw [hv]
  dsimp only
  split
  · next h =>
    simp only [List.all_cons, List.all_nil, Bool.and_true]
    exact isPlain_ofNat (by omega) hc hq hs
  · split
    · simp only [List.all_cons, List.all_nil, Bool.and_true, Bool.and_eq_true]
      refine ⟨isPlain_ofNat ?_ ?_ ?_ ?_, isPlain_ofNat ?_ ?_ ?_ ?_⟩ <;> omega
    · split
      · simp only [List.all_cons, List.all_nil, Bool.and_true, Bool.and_eq_true]
        refine ⟨isPlain_ofNat ?_ ?_ ?_ ?_, isPlain_ofNat ?_ ?_ ?_ ?_, isPlain_ofNat ?_ ?_ ?_ ?_⟩ <;>
          omega
      · simp only [List.all_cons, List.all_nil, Bool.and_true, Bool.and_eq_true]
        refine ⟨isPlain_ofNat ?_ ?_ ?_ ?_, isPlain_ofNat ?_ ?_ ?_ ?_, isPlain_ofNat ?_ ?_ ?_ ?_,
          isPlain_ofNat ?_ ?_ ?_ ?_⟩ <;> omega

theorem bytes_letter {c e : Char} (h : (c, e) ∈ letters) :
    bytes ['\\', e] = ['\\'.toUInt8, e.toUInt8] ∧
      "\"\\/bfnrt".toList.any (is · e.toUInt8) = true := by
  have hm : ∀ pair ∈ letters, bytes ['\\', pair.2] = ['\\'.toUInt8, pair.2.toUInt8] ∧
      "\"\\/bfnrt".toList.any (is · pair.2.toUInt8) = true := by decide
  exact hm _ h

/-- A unit below 32 is spelled with two zeros and two more digits. -/
theorem bytes_unit {n : Nat} (hn : n < 0x20) :
    ∃ a b, bytes ['\\', 'u', '0', '0', Char.ofNat (0x30 + n / 16), Nat.digitChar (n % 16)] =
        ['\\'.toUInt8, 'u'.toUInt8, '0'.toUInt8, '0'.toUInt8, a, b] ∧
      hexValue? a = some (n / 16) ∧ hexValue? b = some (n % 16) := by
  refine ⟨UInt8.ofNat (0x30 + n / 16), (Nat.digitChar (n % 16)).toUInt8, ?_⟩
  revert hn
  revert n
  decide +kernel

theorem isText_of_escapes {c : Char} {text : List Char} (h : Escapes c text) :
    IsText (bytes text) := by
  cases h with
  | letter he =>
    obtain ⟨hb, hl⟩ := bytes_letter he
    rw [hb]
    exact .escape hl .nil
  | unit hc =>
    obtain ⟨a, b, hb, ha, hd⟩ := bytes_unit hc
    rw [hb]
    exact .unit rfl rfl (by rw [ha]; rfl) (by rw [hd]; rfl) .nil
  | plain hc hq hs => exact isText_of_plain (bytes_singleton_isPlain hc hq hs)

theorem unescape_slash {closed : Bool} {done text spelled : Spelling} {size : Nat}
    (h : Spelling.escape closed text = .ok (spelled, size)) :
    Spelling.unescape closed done ('\\'.toUInt8 :: text) =
      Spelling.unescape closed (spelled.reverse ++ done) (text.drop size) := by
  have hs : is '\\' '\\'.toUInt8 = true := rfl
  rw [Spelling.unescape, if_pos hs, h]

theorem unescape_plain {closed : Bool} {done text rest : Spelling} (h : text.all isPlain = true) :
    Spelling.unescape closed done (text ++ rest) =
      Spelling.unescape closed (text.reverse ++ done) rest := by
  induction text generalizing done with
  | nil => rfl
  | cons b text ih =>
    rw [List.all_cons, Bool.and_eq_true, isPlain_iff] at h
    obtain ⟨⟨-, hs, hc⟩, h⟩ := h
    rw [List.cons_append, Spelling.unescape, hs, if_neg Bool.false_ne_true, if_neg hc, ih h]
    simp

theorem escape_letter {c e : Char} (h : (c, e) ∈ letters) (closed : Bool) (rest : Spelling) :
    Spelling.escape closed (e.toUInt8 :: rest) = .ok (bytes [c], 1) := by
  simp only [letters, List.mem_cons, Prod.mk.injEq, List.not_mem_nil, or_false] at h
  rcases h with ⟨rfl, rfl⟩ | ⟨rfl, rfl⟩ | ⟨rfl, rfl⟩ | ⟨rfl, rfl⟩ | ⟨rfl, rfl⟩ | ⟨rfl, rfl⟩ |
    ⟨rfl, rfl⟩ <;> rfl

theorem escape_unit {c : Char} (hc : c.toNat < 0x20) {a b : UInt8}
    (ha : hexValue? a = some (c.toNat / 16)) (hb : hexValue? b = some (c.toNat % 16))
    (closed : Bool) (rest : Spelling) :
    Spelling.escape closed ('u'.toUInt8 :: '0'.toUInt8 :: '0'.toUInt8 :: a :: b :: rest) =
      .ok (bytes [c], 5) := by
  have hz : hexValue? '0'.toUInt8 = some 0 := rfl
  have hx : Spelling.hex ('0'.toUInt8 :: '0'.toUInt8 :: a :: b :: rest) = .ok c.toNat := by
    simp [Spelling.hex, hz, ha, hb, Nat.div_add_mod]
  have ht : Spelling.isTail c.toNat = false := by simp [Spelling.isTail]; omega
  have hl : Spelling.isLead c.toNat = false := by simp [Spelling.isLead]; omega
  have hu : is 'u' 'u'.toUInt8 = true := rfl
  rw [Spelling.escape, if_pos hu, hx]
  show (if Spelling.isTail c.toNat = true then _ else if Spelling.isLead c.toNat = true then _ else
    Except.ok (Spelling.encoded c.toNat, 5)) = _
  rw [ht, hl, if_neg Bool.false_ne_true, if_neg Bool.false_ne_true, Spelling.encoded,
    Char.ofNat_toNat, bytes, List.flatMap_singleton]

theorem unescape_of_escapes {c : Char} {text : List Char} (h : Escapes c text) (closed : Bool)
    (done rest : Spelling) :
    Spelling.unescape closed done (bytes text ++ rest) =
      Spelling.unescape closed ((bytes [c]).reverse ++ done) rest := by
  cases h with
  | letter he =>
    rw [(bytes_letter he).1]
    exact unescape_slash (escape_letter he closed rest)
  | unit hc =>
    obtain ⟨a, b, hb, ha, hd⟩ := bytes_unit hc
    rw [hb]
    exact unescape_slash (escape_unit hc ha hd closed rest)
  | plain hc hq hs => exact unescape_plain (bytes_singleton_isPlain hc hq hs)

end Escapes

section Strings

/-- The text between the quotes of a string. -/
def escaped (s : String) : List Char := s.toList.flatMap escapeChar

theorem isText_flatMap (text : List Char) : IsText (bytes (text.flatMap escapeChar)) := by
  induction text with
  | nil => exact .nil
  | cons c text ih =>
    rw [List.flatMap_cons, bytes_append]
    exact (isText_of_escapes (escapes_escapeChar c)).append ih

theorem unescape_flatMap (text : List Char) (done : Spelling) :
    Spelling.unescape true done (bytes (text.flatMap escapeChar)) =
      .ok (done.reverse ++ bytes text) := by
  induction text generalizing done with
  | nil =>
    rw [Spelling.unescape.eq_def]
    simp [bytes]
  | cons c text ih =>
    rw [List.flatMap_cons, bytes_append, unescape_of_escapes (escapes_escapeChar c), ih]
    simp [bytes]

theorem decode_escaped (s : String) : Spelling.decode (bytes (escaped s)) = .ok s := by
  have hu : Spelling.unescape true [] (bytes (escaped s)) = .ok (Text.Utf8.encode s) :=
    unescape_flatMap s.toList []
  refine bind_eq_ok_iff.2 ⟨_, hu, ?_⟩
  rw [Text.Utf8.decode?_encode]
  rfl

end Strings

section Numbers

theorem bytes_cons_ascii {c : Char} (hc : c.toNat < 128) (text : List Char) :
    bytes (c :: text) = c.toUInt8 :: bytes text := by
  have hv : c.val.toNat ≤ 127 := Nat.le_of_lt_succ hc
  have he : String.utf8EncodeChar c = [c.toUInt8] := by
    unfold String.utf8EncodeChar
    exact if_pos hv
  rw [bytes, List.flatMap_cons, he]
  rfl

theorem map_bytes_ascii {text : List Char} (h : ∀ c ∈ text, c.toNat < 128) :
    (bytes text).map (fun b => Char.ofNat b.toNat) = text := by
  induction text with
  | nil => rfl
  | cons c text ih =>
    have hc := h c List.mem_cons_self
    have hb : c.toUInt8.toNat = c.toNat := by
      have ht : c.toUInt8.toNat = c.toNat % 256 := UInt32.toNat_toUInt8 c.val
      omega
    rw [bytes_cons_ascii hc, List.map_cons, hb, Char.ofNat_toNat,
      ih fun d hd => h d (List.mem_cons_of_mem c hd)]

theorem isDigit_digitChar {d : Nat} (hd : d < 10) :
    bytes [Nat.digitChar d] = [(Nat.digitChar d).toUInt8] ∧
      isDigit (Nat.digitChar d).toUInt8 = true ∧
      is '0' (Nat.digitChar d).toUInt8 = decide (d = 0) := by
  revert d
  decide

/-- The digits of a positive number start with another one than zero. -/
theorem bytes_toDigits {n : Nat} (hn : 0 < n) :
    ∃ b rest, bytes (Nat.toDigits 10 n) = b :: rest ∧ isDigit b = true ∧ is '0' b = false ∧
      rest.all isDigit = true := by
  induction n using Nat.strongRecOn with
  | ind n ih =>
    rw [Nat.toDigits_eq_if (by decide)]
    split
    · next h =>
      obtain ⟨hb, hd, hz⟩ := isDigit_digitChar h
      exact ⟨_, [], hb, hd, by rw [hz]; simp; omega, rfl⟩
    · next h =>
      obtain ⟨b, rest, hb, hd, hz, hr⟩ := ih (n / 10) (by omega) (by omega)
      obtain ⟨hl, hk, -⟩ := isDigit_digitChar (Nat.mod_lt n (by decide : 0 < 10))
      refine ⟨b, rest ++ [(Nat.digitChar (n % 10)).toUInt8], ?_, hd, hz, ?_⟩
      · rw [bytes_append, hb, hl]
        rfl
      · rw [List.all_append, hr, List.all_cons, hk]
        rfl

theorem isWhole_toDigits (n : Nat) : IsWhole (bytes (Nat.toDigits 10 n)) := by
  by_cases hn : n = 0
  · rw [hn]
    exact .zero
  · obtain ⟨b, rest, hb, hd, hz, hr⟩ := bytes_toDigits (Nat.pos_of_ne_zero hn)
    rw [hb]
    exact .digits hd hz hr

theorem isNumber_intChars (n : Int) : IsNumber (bytes (intChars n)) := by
  have hw := isWhole_toDigits n.natAbs
  unfold intChars
  split
  · have h := IsNumber.mk (.inr rfl) hw .none .none
    rwa [List.append_nil, List.append_nil] at h
  · have h := IsNumber.mk (.inl rfl) hw .none .none
    rwa [List.append_nil, List.append_nil] at h

theorem natural?_toDigits (n : Nat) : natural? (Nat.toDigits 10 n) = some n := by
  have hd : (Nat.toDigits 10 n).all Char.isDigit = true :=
    List.all_eq_true.2 fun c hc => Nat.isDigit_of_mem_toDigits (by decide) (by decide) hc
  have hn : (Nat.toDigits 10 n).isEmpty = false := by simp
  simp [natural?, hd, hn, Nat.ofDigitChars_ten_toDigits]

theorem ascii_of_mem_intChars {n : Int} {c : Char} (h : c ∈ intChars n) :
    0x20 ≤ c.toNat ∧ c.toNat < 128 := by
  have hd {d : Char} (hd : d ∈ Nat.toDigits 10 n.natAbs) : 0x20 ≤ d.toNat ∧ d.toNat < 128 := by
    have h := Nat.isDigit_of_mem_toDigits (by decide) (by decide) hd
    rw [Timestamp.isDigit_iff] at h
    omega
  unfold intChars at h
  split at h
  · rcases List.mem_cons.1 h with rfl | h
    · decide
    · exact hd h
  · exact hd h

theorem integer?_intChars (n : Int) : integer? (bytes (intChars n)) = some n := by
  have hd := natural?_toDigits n.natAbs
  unfold integer?
  rw [map_bytes_ascii fun c hc => (ascii_of_mem_intChars hc).2]
  unfold intChars
  by_cases hn : n < 0
  · have hs : -Int.ofNat n.natAbs = n := by
      rw [Int.ofNat_eq_natCast]
      omega
    rw [if_pos hn]
    show (natural? (Nat.toDigits 10 n.natAbs)).map (fun n => -Int.ofNat n) = some n
    rw [hd, Option.map_some, hs]
  · rw [if_neg hn]
    split
    · next digits he =>
      have hm : '-' ∈ Nat.toDigits 10 n.natAbs := he ▸ List.mem_cons_self
      have hf := Nat.isDigit_of_mem_toDigits (by decide) (by decide) hm
      cases hf
    · have hs : Int.ofNat n.natAbs = n := by
        rw [Int.ofNat_eq_natCast]
        omega
      rw [hd, Option.map_some, hs]

end Numbers

section Documents

mutual

/-- The node that a document is written from. -/
def Value.node : Value → Node
  | .null => .null
  | .bool b => .flag b
  | .num n => .number (bytes (intChars n))
  | .str s => .text (bytes (escaped s))
  | .arr items => .list (itemNodes items) .closed
  | .obj members => .object (memberNodes members) .closed

def itemNodes : List Value → List Node
  | [] => []
  | v :: rest => v.node :: itemNodes rest

def memberNodes : List (String × Value) → List (Spelling × Node)
  | [] => []
  | (k, v) :: rest => (bytes (escaped k), v.node) :: memberNodes rest

end

theorem bytes_stringChars (s : String) :
    bytes (stringChars s) = '"'.toUInt8 :: (bytes (escaped s) ++ ['"'.toUInt8]) := by
  rw [stringChars, List.cons_append, bytes_cons_ascii (by decide), bytes_append]
  rfl

theorem writes_spaced {node : Node} {text : Spelling} (h : Writes (.value node) text) :
    Writes (.spaced node) text := by
  have hb : ([] : Spelling).all isBlank = true := rfl
  have hs := Writes.spaced hb h hb
  rwa [List.append_nil, List.nil_append] at hs

/-- A member as it stands in an object, without blanks. -/
theorem writes_memberChars {k : String} {v : Value} (h : Writes (.value v.node) (bytes v.chars)) :
    Writes (.member (bytes (escaped k)) v.node) (bytes (stringChars k ++ ':' :: v.chars)) := by
  rw [bytes_append, bytes_stringChars, bytes_cons_ascii (by decide), List.cons_append,
    List.append_assoc]
  exact writes_member (isText_flatMap k.toList) h

mutual

theorem Value.writes_node : (v : Value) → Writes (.value v.node) (bytes v.chars)
  | .null => .null
  | .bool true => .true
  | .bool false => .false
  | .num n => .number (isNumber_intChars n)
  | .str s => by
    rw [Value.chars, bytes_stringChars]
    exact .text (isText_flatMap s.toList)
  | .arr items => by
    rw [Value.chars, List.cons_append, bytes_cons_ascii (by decide), bytes_append]
    rcases writes_items items with h | rfl
    · exact .list h
    · exact @Writes.emptyList [] rfl
  | .obj members => by
    rw [Value.chars, List.cons_append, bytes_cons_ascii (by decide), bytes_append]
    rcases writes_members members with h | rfl
    · exact .object h
    · exact @Writes.emptyObject [] rfl

theorem writes_items : (items : List Value) →
    Writes (.items (itemNodes items)) (bytes (itemChars items)) ∨ items = []
  | [] => .inr rfl
  | [v] => .inl (.lastItem (writes_spaced v.writes_node))
  | v :: w :: rest => by
    rcases writes_items (w :: rest) with h | h
    · rw [itemChars, bytes_append, bytes_cons_ascii (by decide)]
      exact .inl (.item (writes_spaced v.writes_node) h)
    · cases h

theorem writes_members : (members : List (String × Value)) →
    Writes (.members (memberNodes members)) (bytes (memberChars members)) ∨ members = []
  | [] => .inr rfl
  | [(k, v)] => .inl (.lastMember (writes_memberChars v.writes_node))
  | (k, v) :: (l, w) :: rest => by
    rcases writes_members ((l, w) :: rest) with h | h
    · rw [memberChars, bytes_append, bytes_cons_ascii (by decide)]
      exact .inl (.members (writes_memberChars v.writes_node) h)
    · cases h

end

theorem decode_toOption_escaped (s : String) :
    (Spelling.decode (bytes (escaped s))).toOption = some s :=
  toOption_eq_some_iff.2 (decode_escaped s)

mutual

theorem Value.ofNode?_node : (v : Value) → Value.ofNode? v.node = some v
  | .null => rfl
  | .bool _ => rfl
  | .num n => by rw [Value.node, Value.ofNode?, integer?_intChars, Option.map_some]
  | .str s => by rw [Value.node, Value.ofNode?, decode_toOption_escaped, Option.map_some]
  | .arr items => by rw [Value.node, Value.ofNode?, itemsOfNodes?_itemNodes items, Option.map_some]
  | .obj members => by
    rw [Value.node, Value.ofNode?, membersOfNodes?_memberNodes members, Option.map_some]

theorem itemsOfNodes?_itemNodes : (items : List Value) →
    itemsOfNodes? (itemNodes items) = some items
  | [] => rfl
  | v :: rest => by
    rw [itemNodes, itemsOfNodes?, v.ofNode?_node, itemsOfNodes?_itemNodes rest]
    rfl

theorem membersOfNodes?_memberNodes : (members : List (String × Value)) →
    membersOfNodes? (memberNodes members) = some members
  | [] => rfl
  | (k, v) :: rest => by
    rw [memberNodes, membersOfNodes?, decode_toOption_escaped, v.ofNode?_node,
      membersOfNodes?_memberNodes rest]
    rfl

end

theorem not_control_stringChars {s : String} {c : Char} (h : c ∈ stringChars s) :
    0x20 ≤ c.toNat := by
  simp only [stringChars, List.cons_append, List.mem_cons, List.mem_append, List.mem_flatMap,
    List.not_mem_nil, or_false] at h
  rcases h with rfl | ⟨d, -, hd⟩ | rfl
  · decide
  · exact not_control_of_escapes (escapes_escapeChar d) hd
  · decide

mutual

theorem Value.not_control_chars : (v : Value) → ∀ c ∈ v.chars, 0x20 ≤ c.toNat
  | .null => by simp [Value.chars]
  | .bool true => by simp [Value.chars]
  | .bool false => by simp [Value.chars]
  | .num _ => fun _ hc => (ascii_of_mem_intChars hc).1
  | .str _ => fun _ hc => not_control_stringChars hc
  | .arr items => by
    simp only [Value.chars, List.cons_append, List.forall_mem_cons, List.forall_mem_append]
    exact ⟨by decide, not_control_itemChars items, by decide, nofun⟩
  | .obj members => by
    simp only [Value.chars, List.cons_append, List.forall_mem_cons, List.forall_mem_append]
    exact ⟨by decide, not_control_memberChars members, by decide, nofun⟩

theorem not_control_itemChars : (items : List Value) → ∀ c ∈ itemChars items, 0x20 ≤ c.toNat
  | [] => nofun
  | [v] => v.not_control_chars
  | v :: w :: rest => by
    simp only [itemChars, List.forall_mem_append, List.forall_mem_cons]
    exact ⟨v.not_control_chars, by decide, not_control_itemChars (w :: rest)⟩

theorem not_control_memberChars : (members : List (String × Value)) →
    ∀ c ∈ memberChars members, 0x20 ≤ c.toNat
  | [] => nofun
  | [(k, v)] => by
    simp only [memberChars, List.forall_mem_append, List.forall_mem_cons]
    exact ⟨fun c hc => not_control_stringChars hc, by decide, v.not_control_chars⟩
  | (k, v) :: m :: rest => by
    simp only [memberChars, List.forall_mem_append, List.forall_mem_cons]
    exact ⟨⟨fun c hc => not_control_stringChars hc, by decide, v.not_control_chars⟩, by decide,
      not_control_memberChars (m :: rest)⟩

end

theorem Value.encode_compact (v : Value) : Text.Utf8.encode v.compact = bytes v.chars := by
  rw [Text.Utf8.encode, Value.compact, String.toList_ofList, bytes]

theorem Value.writes_compact (v : Value) : Writes (.value v.node) (Text.Utf8.encode v.compact) := by
  rw [v.encode_compact]
  exact v.writes_node

/-- A document is read back from its text. -/
theorem Value.ofText?_compact (v : Value) : Value.ofText? v.compact = some v := by
  obtain ⟨blanks, hs, hb⟩ := scan_of_writes (writes_spaced v.writes_compact)
  rw [Value.ofText?, hs]
  exact (if_pos hb).trans v.ofNode?_node

theorem Value.not_control_compact (v : Value) : ∀ c ∈ v.compact.toList, 0x20 ≤ c.toNat := by
  rw [Value.compact, String.toList_ofList]
  exact v.not_control_chars

end Documents

end WebhookRelay.Json
