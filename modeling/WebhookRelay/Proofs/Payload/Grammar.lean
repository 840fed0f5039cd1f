import WebhookRelay.Payload.Scan

/-!
The grammar of JSON texts, and that the scanner reads the node that a text is written from. So of a
text that is well formed nothing but that node counts, wherever there are blanks.
-/

namespace WebhookRelay.Payload

def ascii (text : String) : Spelling := text.toList.map Char.toUInt8

/-- The whole part of a number, which has no leading zeros. -/
inductive IsWhole : Spelling → Prop
  | zero : IsWhole ['0'.toUInt8]
  | digits {b : UInt8} {rest : Spelling} (hb : isDigit b = true) (hz : is '0' b = false)
      (hr : rest.all isDigit = true) : IsWhole (b :: rest)

inductive IsFraction : Spelling → Prop
  | none : IsFraction []
  | digits {b : UInt8} {rest : Spelling} (hb : isDigit b = true) (hr : rest.all isDigit = true) :
      IsFraction ('.'.toUInt8 :: b :: rest)

inductive IsExponent : Spelling → Prop
  | none : IsExponent []
  | digits {mark b : UInt8} {sign rest : Spelling}
      (hm : mark = 'e'.toUInt8 ∨ mark = 'E'.toUInt8)
      (hs : sign = [] ∨ sign = ['+'.toUInt8] ∨ sign = ['-'.toUInt8]) (hb : isDigit b = true)
      (hr : rest.all isDigit = true) : IsExponent (mark :: (sign ++ b :: rest))

inductive IsNumber : Spelling → Prop
  | mk {sign whole fraction exponent : Spelling} (hs : sign = [] ∨ sign = ['-'.toUInt8])
      (hw : IsWhole whole) (hf : IsFraction fraction) (he : IsExponent exponent) :
      IsNumber (sign ++ (whole ++ (fraction ++ exponent)))

/-- What may stand between the quotes of a string. Nothing is said of surrogates. -/
inductive IsText : Spelling → Prop
  | nil : IsText []
  | plain {b : UInt8} {rest : Spelling} (hq : is '"' b = false) (hs : is '\\' b = false)
      (hc : ¬ b < 0x20) (h : IsText rest) : IsText (b :: rest)
  | escape {b : UInt8} {rest : Spelling} (hb : "\"\\/bfnrt".toList.any (is · b) = true)
      (h : IsText rest) : IsText ('\\'.toUInt8 :: b :: rest)
  | unit {a b c d : UInt8} {rest : Spelling} (ha : (hexValue? a).isSome = true)
      (hb : (hexValue? b).isSome = true) (hc : (hexValue? c).isSome = true)
      (hd : (hexValue? d).isSome = true) (h : IsText rest) :
      IsText ('\\'.toUInt8 :: 'u'.toUInt8 :: a :: b :: c :: d :: rest)

/-- What a piece of a text is written from. -/
inductive Piece where
  | value (node : Node)
  /-- A value with blanks around it. -/
  | spaced (node : Node)
  | items (items : List Node)
  | member (key : Spelling) (node : Node)
  | members (members : List (Spelling × Node))

/-- Whether a text writes a piece. -/
inductive Writes : Piece → Spelling → Prop
  | null : Writes (.value .null) (ascii "null")
  | true : Writes (.value (.flag true)) (ascii "true")
  | false : Writes (.value (.flag false)) (ascii "false")
  | number {spelling : Spelling} (h : IsNumber spelling) :
      Writes (.value (.number spelling)) spelling
  | text {spelling : Spelling} (h : IsText spelling) :
      Writes (.value (.text spelling)) ('"'.toUInt8 :: (spelling ++ ['"'.toUInt8]))
  | emptyList {blanks : Spelling} (hb : blanks.all isBlank = true) :
      Writes (.value (.list [] .closed)) ('['.toUInt8 :: (blanks ++ [']'.toUInt8]))
  | list {items : List Node} {text : Spelling} (h : Writes (.items items) text) :
      Writes (.value (.list items .closed)) ('['.toUInt8 :: (text ++ [']'.toUInt8]))
  | emptyObject {blanks : Spelling} (hb : blanks.all isBlank = true) :
      Writes (.value (.object [] .closed)) ('\x7b'.toUInt8 :: (blanks ++ ['\x7d'.toUInt8]))
  | object {members : List (Spelling × Node)} {text : Spelling}
      (h : Writes (.members members) text) :
      Writes (.value (.object members .closed)) ('\x7b'.toUInt8 :: (text ++ ['\x7d'.toUInt8]))
  | spaced {node : Node} {before text after : Spelling} (hb : before.all isBlank = true)
      (h : Writes (.value node) text) (ha : after.all isBlank = true) :
      Writes (.spaced node) (before ++ (text ++ after))
  | lastItem {node : Node} {text : Spelling} (h : Writes (.spaced node) text) :
      Writes (.items [node]) text
  | item {node : Node} {items : List Node} {text others : Spelling}
      (h : Writes (.spaced node) text) (hr : Writes (.items items) others) :
      Writes (.items (node :: items)) (text ++ (','.toUInt8 :: others))
  | member {key before gap text : Spelling} {node : Node} (hb : before.all isBlank = true)
      (hk : IsText key) (hg : gap.all isBlank = true) (h : Writes (.spaced node) text) :
      Writes (.member key node)
        (before ++ ('"'.toUInt8 :: (key ++ ('"'.toUInt8 :: (gap ++ (':'.toUInt8 :: text))))))
  | lastMember {key text : Spelling} {node : Node} (h : Writes (.member key node) text) :
      Writes (.members [(key, node)]) text
  | members {key text others : Spelling} {node : Node} {members : List (Spelling × Node)}
      (h : Writes (.member key node) text) (hr : Writes (.members members) others) :
      Writes (.members ((key, node) :: members)) (text ++ (','.toUInt8 :: others))

/-- Whether a byte stands for itself in a string. -/
def isPlain (b : UInt8) : Bool := !is '"' b && !is '\\' b && !decide (b < 0x20)

theorem isPlain_iff {b : UInt8} :
    isPlain b = true ↔ is '"' b = false ∧ is '\\' b = false ∧ ¬ b < 0x20 := by
  simp only [isPlain, Bool.and_eq_true, Bool.not_eq_true', decide_eq_false_iff_not, and_assoc]

theorem isText_of_plain {text : Spelling} (h : text.all isPlain = true) : IsText text := by
  induction text with
  | nil => exact .nil
  | cons b text ih =>
    rw [List.all_cons, Bool.and_eq_true, isPlain_iff] at h
    obtain ⟨⟨hq, hs, hc⟩, h⟩ := h
    exact .plain hq hs hc (ih h)

theorem IsText.append {text others : Spelling} (h : IsText text) (ho : IsText others) :
    IsText (text ++ others) := by
  induction h with
  | nil => exact ho
  | plain hq hs hc _ ih => exact .plain hq hs hc ih
  | escape hb _ ih => exact .escape hb ih
  | unit ha hb hc hd _ ih => exact .unit ha hb hc hd ih

/-- A member without any blanks. -/
theorem writes_member {key text : Spelling} {node : Node} (hk : IsText key)
    (h : Writes (.value node) text) :
    Writes (.member key node)
      ('"'.toUInt8 :: (key ++ ('"'.toUInt8 :: (':'.toUInt8 :: text)))) := by
  have hb : ([] : Spelling).all isBlank = true := rfl
  have hs := Writes.spaced hb h hb
  rw [List.append_nil, List.nil_append] at hs
  exact .member hb hk hb hs

namespace Scan

/-- The bytes that may follow a value. -/
def ends : Spelling := ascii " \t\n\x0d,]\x7d"

/-- Whether one state may be taken for another where a value ends. A number has no end of its
own, so its state only settles for the complete value. -/
structure Settles (s t : State) : Prop where
  step_eq : ∀ b ∈ ends, step s b = step t b
  finish_eq : finish s = finish t

theorem Settles.refl (s : State) : Settles s s := ⟨fun _ _ => rfl, rfl⟩

theorem mem_ends_of_isBlank {b : UInt8} (h : isBlank b = true) : b ∈ ends := by
  simp only [isBlank, is, Bool.or_eq_true, beq_iff_eq] at h
  rcases h with ((rfl | rfl) | rfl) | rfl <;> decide

theorem run_blanks {s : State} (hs : ∀ b, isBlank b = true → step s b = s) {blanks : Spelling}
    (h : blanks.all isBlank = true) : run s blanks = s := by
  induction blanks with
  | nil => rfl
  | cons b blanks ih =>
    rw [List.all_cons, Bool.and_eq_true] at h
    rw [run_cons, hs b h.1, ih h.2]

theorem Settles.blanks {s t : State} (h : Settles s t)
    (ht : ∀ b, isBlank b = true → step t b = t) {blanks : Spelling}
    (hb : blanks.all isBlank = true) : Settles (run s blanks) t := by
  cases blanks with
  | nil => exact h
  | cons b blanks =>
    have hc := hb
    rw [List.all_cons, Bool.and_eq_true] at hc
    have he : step s b = t := by rw [h.step_eq b (mem_ends_of_isBlank hc.1), ht b hc.1]
    rw [run_cons, he, run_blanks ht hc.2]
    exact .refl t

theorem step_complete (node : Node) (outer : List Frame) (b : UInt8) :
    step (complete node outer) b = stepAfter b (complete node outer) := by
  cases outer with
  | nil => rfl
  | cons frame outer => cases frame <;> rfl

theorem is_eq_false_of_isDigit {c : Char} {b : UInt8} (hb : isDigit b = true)
    (hc : isDigit c.toUInt8 = false) : is c b = false := by
  rw [is, beq_eq_false_iff_ne]
  rintro rfl
  rw [hc] at hb
  cases hb

section Numbers

variable {part : Part} {spelling : Spelling} {outer : List Frame}

theorem next?_of_mem_ends (part : Part) :
    ∀ b ∈ ends, part.next? b = none ∧ isDigit b = false := by
  cases part <;> decide +kernel

theorem settles_number (h : part.isWhole = true) (spelling : Spelling) (outer : List Frame) :
    Settles (.number part spelling outer) (complete (.number spelling.reverse) outer) where
  step_eq b hb := by
    -- No part goes on with such a byte, so the number ends there.
    obtain ⟨hn, hd⟩ := next?_of_mem_ends part b hb
    rw [step_complete]
    simp [step, hn, hd, h]
  finish_eq := by
    simp only [finish, h, if_true]
    cases outer with
    | nil => rfl
    | cons frame outer => cases frame <;> rfl

/-- The part that a number is in after more of its bytes, if it may go on with them. -/
def Part.follow (part : Part) (text : Spelling) : Option Part := text.foldlM Part.next? part

theorem Part.follow_cons (b : UInt8) (text : Spelling) :
    part.follow (b :: text) = (part.next? b).bind (·.follow text) := by
  unfold Part.follow
  rw [List.foldlM_cons]
  rfl

theorem Part.follow_append (text others : Spelling) :
    part.follow (text ++ others) = (part.follow text).bind (·.follow others) :=
  List.foldlM_append

theorem Part.follow_digits (hp : ∀ b, isDigit b = true → part.next? b = some part)
    {digits : Spelling} (h : digits.all isDigit = true) : part.follow digits = some part := by
  induction digits with
  | nil => rfl
  | cons b digits ih =>
    rw [List.all_cons, Bool.and_eq_true] at h
    rw [follow_cons, hp b h.1, Option.bind_some, ih h.2]

theorem Part.follow_whole {whole : Spelling} (h : IsWhole whole) :
    Part.sign.follow whole = some .zero ∨ Part.sign.follow whole = some .whole := by
  cases h with
  | zero => exact .inl rfl
  | @digits b rest hb hz hr =>
    right
    have hn : Part.sign.next? b = some .whole := by simp [next?, hz, hb]
    rw [follow_cons, hn, Option.bind_some]
    exact follow_digits (fun b hb => by simp [next?, hb]) hr

theorem Part.follow_fraction {fraction : Spelling} (h : IsFraction fraction)
    (hp : part = .zero ∨ part = .whole) :
    part.follow fraction = some part ∨ part.follow fraction = some .fraction := by
  cases h with
  | none => exact .inl rfl
  | @digits b rest hb hr =>
    right
    have hn : part.next? '.'.toUInt8 = some .point := by
      rcases hp with rfl | rfl <;> rfl
    have hf : Part.point.next? b = some .fraction := by simp [next?, hb]
    rw [follow_cons, hn, Option.bind_some, follow_cons, hf, Option.bind_some]
    exact follow_digits (fun b hb => by simp [next?, hb]) hr

theorem Part.follow_exponent {exponent : Spelling} (h : IsExponent exponent)
    (hp : part = .zero ∨ part = .whole ∨ part = .fraction) :
    part.follow exponent = some part ∨ part.follow exponent = some .exponent := by
  cases h with
  | none => exact .inl rfl
  | @digits mark b sign rest hm hs hb hr =>
    right
    have hn : part.next? mark = some .mark := by
      rcases hp with rfl | rfl | rfl <;> rcases hm with rfl | rfl <;> rfl
    have hd : ∃ marked, Part.mark.follow sign = some marked ∧ marked.next? b = some .exponent := by
      rcases hs with rfl | rfl | rfl
      · refine ⟨.mark, rfl, ?_⟩
        have hp := is_eq_false_of_isDigit (c := '+') hb rfl
        have hm := is_eq_false_of_isDigit (c := '-') hb rfl
        simp [next?, hp, hm, hb]
      · exact ⟨.markSign, rfl, by simp [next?, hb]⟩
      · exact ⟨.markSign, rfl, by simp [next?, hb]⟩
    obtain ⟨marked, hs, hd⟩ := hd
    rw [follow_cons, hn, Option.bind_some, follow_append, hs, Option.bind_some, follow_cons, hd,
      Option.bind_some]
    exact follow_digits (fun b hb => by simp [next?, hb]) hr

/-- A number may end where the grammar says. -/
theorem Part.follow_unsigned {whole fraction exponent : Spelling} (hw : IsWhole whole)
    (hf : IsFraction fraction) (he : IsExponent exponent) :
    ∃ part, Part.sign.follow (whole ++ (fraction ++ exponent)) = some part ∧
      part.isWhole = true := by
  rw [follow_append]
  have hw := follow_whole hw
  obtain ⟨first, hw, hp⟩ : ∃ first, Part.sign.follow whole = some first ∧
      (first = .zero ∨ first = .whole) := by
    rcases hw with hw | hw
    · exact ⟨.zero, hw, .inl rfl⟩
    · exact ⟨.whole, hw, .inr rfl⟩
  rw [hw, Option.bind_some, follow_append]
  obtain ⟨second, hf, hq⟩ : ∃ second, first.follow fraction = some second ∧
      (second = .zero ∨ second = .whole ∨ second = .fraction) := by
    rcases follow_fraction hf hp with hf | hf
    · exact ⟨first, hf, hp.imp_right .inl⟩
    · exact ⟨.fraction, hf, .inr (.inr rfl)⟩
  rw [hf, Option.bind_some]
  rcases follow_exponent he hq with he | he
  · refine ⟨second, he, ?_⟩
    rcases hq with rfl | rfl | rfl <;> rfl
  · exact ⟨.exponent, he, rfl⟩

theorem run_number {last : Part} {text : Spelling} (h : part.follow text = some last) :
    run (.number part spelling outer) text = .number last (text.reverse ++ spelling) outer := by
  induction text generalizing part spelling with
  | nil =>
    cases h
    rfl
  | cons b text ih =>
    rw [Part.follow_cons] at h
    obtain ⟨next, hn, h⟩ := Option.bind_eq_some_iff.1 h
    have hs : step (.number part spelling outer) b = .number next (b :: spelling) outer := by
      simp only [step, hn]
    rw [run_cons, hs, ih h, List.reverse_cons, List.append_assoc, List.singleton_append]

theorem isDigit_of_next? {b : UInt8} {first : Part} (h : Part.sign.next? b = some first) :
    isDigit b = true := by
  simp only [Part.next?] at h
  split at h
  · next hz =>
    obtain rfl := beq_iff_eq.1 hz
    rfl
  · split at h
    · next hb => exact hb
    · cases h

theorem start_of_next? {b : UInt8} {first : Part} (h : Part.sign.next? b = some first) :
    start outer b = .number first [b] outer := by
  have hb := isDigit_of_next? h
  have hq := is_eq_false_of_isDigit (c := '"') hb rfl
  have ho := is_eq_false_of_isDigit (c := '\x7b') hb rfl
  have hl := is_eq_false_of_isDigit (c := '[') hb rfl
  have hm := is_eq_false_of_isDigit (c := '-') hb rfl
  simp only [Part.next?, hb, if_true] at h
  simp only [start, hq, ho, hl, hm, hb, if_true, Bool.false_eq_true, if_false]
  split at h
  · next hz =>
    cases h
    rw [if_pos hz]
  · next hz =>
    cases h
    rw [if_neg hz]

end Numbers

/-- Whether the scanner completes a value where its text ends. -/
def ScansValue (node : Node) (text : Spelling) : Prop :=
  ∃ b rest, text = b :: rest ∧ b ∉ ends ∧
    ∀ outer, Settles (run (start outer b) rest) (complete node outer)

theorem not_mem_ends_of_isDigit {b : UInt8} (h : isDigit b = true) : b ∉ ends := by
  intro hb
  have hn := (next?_of_mem_ends .sign b hb).2
  rw [h] at hn
  cases hn

theorem scansValue_number {spelling : Spelling} (h : IsNumber spelling) :
    ScansValue (.number spelling) spelling := by
  obtain ⟨hs, hw, hf, he⟩ := h
  next sign whole fraction exponent =>
  -- What follows the sign is read from the part that a sign leaves, also where there is none.
  obtain ⟨last, hl, hi⟩ := Part.follow_unsigned hw hf he
  generalize whole ++ (fraction ++ exponent) = digits at hl ⊢
  rcases hs with rfl | rfl
  · cases digits with
    | nil =>
      cases hl
      cases hi
    | cons b rest =>
      rw [Part.follow_cons] at hl
      obtain ⟨first, hn, hl⟩ := Option.bind_eq_some_iff.1 hl
      refine ⟨b, rest, rfl, not_mem_ends_of_isDigit (isDigit_of_next? hn), fun outer => ?_⟩
      rw [start_of_next? hn, run_number hl]
      simpa using settles_number hi (rest.reverse ++ [b]) outer
  · refine ⟨'-'.toUInt8, digits, rfl, by decide, fun outer => ?_⟩
    have hm : start outer '-'.toUInt8 = .number .sign ['-'.toUInt8] outer := rfl
    have hn := settles_number hi (digits.reverse ++ ['-'.toUInt8]) outer
    rw [List.reverse_append, List.reverse_reverse] at hn
    rw [hm, run_number hl]
    exact hn

/-- In the states that `put` gives, a string is read to where its quote may stand. -/
theorem run_text (put : Escape → Spelling → State)
    (hp : ∀ escape b next, escape.next b = .ok (some next) →
      ∀ spelling, step (put escape spelling) b = put next (b :: spelling))
    {text : Spelling} (h : IsText text) (spelling : Spelling) :
    run (put .none spelling) text = put .none (text.reverse ++ spelling) := by
  induction h generalizing spelling with
  | nil => rfl
  | @plain b rest hq hs hc _ ih =>
    have hn : Escape.none.next b = .ok (some .none) := by simp [Escape.next, hq, hs, hc]
    rw [run_cons, hp _ b _ hn, ih]
    simp
  | @escape b rest hb _ ih =>
    have hn : Escape.none.next '\\'.toUInt8 = .ok (some .slash) := rfl
    have hu : is 'u' b = false := by
      rw [is, beq_eq_false_iff_ne]
      rintro rfl
      cases hb
    have hs : Escape.slash.next b = .ok (some .none) := by
      simp only [Escape.next, hu, hb]
      rfl
    rw [run_cons, hp _ _ _ hn, run_cons, hp _ b _ hs, ih]
    simp
  | @unit a b c d rest ha hb hc hd _ ih =>
    have hn : Escape.none.next '\\'.toUInt8 = .ok (some .slash) := rfl
    have hu : Escape.slash.next 'u'.toUInt8 = .ok (some (.hex 4 true)) := rfl
    have ha : (Escape.hex 4 true).next a = .ok (some (.hex 3 true)) := by simp [Escape.next, ha]
    have hb : (Escape.hex 3 true).next b = .ok (some (.hex 2 true)) := by simp [Escape.next, hb]
    have hc : (Escape.hex 2 true).next c = .ok (some (.hex 1 true)) := by simp [Escape.next, hc]
    have hd : (Escape.hex 1 true).next d = .ok (some .none) := by simp [Escape.next, hd]
    rw [run_cons, hp _ _ _ hn, run_cons, hp _ _ _ hu, run_cons, hp _ _ _ ha, run_cons,
      hp _ _ _ hb, run_cons, hp _ _ _ hc, run_cons, hp _ _ _ hd, ih]
    simp

theorem scansValue_of_run {node : Node} {b : UInt8} {rest : Spelling} (hb : b ∉ ends)
    (h : ∀ outer, run (start outer b) rest = complete node outer) :
    ScansValue node (b :: rest) := by
  refine ⟨b, rest, rfl, hb, fun outer => ?_⟩
  rw [h outer]
  exact .refl _

theorem scansValue_text {spelling : Spelling} (h : IsText spelling) :
    ScansValue (.text spelling) ('"'.toUInt8 :: (spelling ++ ['"'.toUInt8])) := by
  refine scansValue_of_run (by decide) fun outer => ?_
  have hr := run_text (fun escape spelling => .text escape spelling outer) ?_ h []
  · have hs : start outer '"'.toUInt8 = .text .none [] outer := rfl
    rw [hs, run_append, hr, List.append_nil]
    show complete (.text spelling.reverse.reverse) outer = _
    rw [List.reverse_reverse]
  · intro escape b next hn spelling
    simp only [step, hn]

/-- What the scanner makes of a piece wherever one may stand. -/
def Scans : Piece → Spelling → Prop
  | .value node, text => ScansValue node text
  | .spaced node, text => ∃ before value after, text = before ++ (value ++ after) ∧
      before.all isBlank = true ∧ ScansValue node value ∧ after.all isBlank = true
  | .items items, text => ∀ first done outer,
      Settles (run (.item first done outer) text) (.listMark (items.reverse ++ done) outer)
  | .member key node, text => ∀ first done outer,
      Settles (run (.key first done outer) text) (.objectMark ((key, node) :: done) outer)
  | .members members, text => ∀ first done outer,
      Settles (run (.key first done outer) text) (.objectMark (members.reverse ++ done) outer)

/-- Whether a value may start in a state, inside of `outer`. -/
structure Opens (s : State) (outer : List Frame) : Prop where
  step_blank : ∀ b, isBlank b = true → step s b = s
  step_start : ∀ b, b ∉ ends → step s b = start outer b

theorem step_value_start (outer : List Frame) {b : UInt8} (hb : b ∉ ends) :
    step (.value outer) b = start outer b := by
  have h : isBlank b = false := Bool.eq_false_iff.2 fun h => hb (mem_ends_of_isBlank h)
  simp [step, h]

theorem opens_value (outer : List Frame) : Opens (.value outer) outer where
  step_blank b hb := by simp [step, hb]
  step_start b hb := step_value_start outer hb

theorem opens_item (first : Bool) (items : List Node) (outer : List Frame) :
    Opens (.item first items outer) (.list items :: outer) where
  step_blank b hb := by simp [step, hb]
  step_start b hb := by
    have h : isBlank b = false := Bool.eq_false_iff.2 fun h => hb (mem_ends_of_isBlank h)
    have hl : is ']' b = false := by
      rw [is, beq_eq_false_iff_ne]
      rintro rfl
      exact hb (by decide)
    simp [step, h, hl]

theorem Opens.run_spaced {s : State} {frame : Frame} {outer : List Frame} {node : Node}
    {text : Spelling} (hs : Opens s (frame :: outer)) (h : Scans (.spaced node) text) :
    Settles (run s text) (complete node (frame :: outer)) := by
  obtain ⟨before, value, after, rfl, hb, ⟨b, rest, rfl, hv, hr⟩, ha⟩ := h
  rw [run_append, run_blanks hs.step_blank hb, List.cons_append, run_cons, hs.step_start b hv,
    run_append]
  refine (hr (frame :: outer)).blanks (fun b hb => ?_) ha
  rw [step_complete]
  cases frame <;> simp [complete, stepAfter, hb]

theorem step_key_blank (first : Bool) (members : List (Spelling × Node)) (outer : List Frame)
    (b : UInt8) (hb : isBlank b = true) :
    step (.key first members outer) b = .key first members outer := by
  simp [step, hb]

theorem scansValue_emptyList {blanks : Spelling} (hb : blanks.all isBlank = true) :
    ScansValue (.list [] .closed) ('['.toUInt8 :: (blanks ++ [']'.toUInt8])) := by
  refine scansValue_of_run (by decide) fun outer => ?_
  have hs : start outer '['.toUInt8 = .item true [] outer := rfl
  rw [hs, run_append, run_blanks (opens_item true [] outer).step_blank hb]
  rfl

theorem scansValue_list {items : List Node} {text : Spelling} (h : Scans (.items items) text) :
    ScansValue (.list items .closed) ('['.toUInt8 :: (text ++ [']'.toUInt8])) := by
  refine scansValue_of_run (by decide) fun outer => ?_
  have hs : start outer '['.toUInt8 = .item true [] outer := rfl
  have hc : step (.listMark (items.reverse ++ []) outer) ']'.toUInt8 =
      complete (.list (items.reverse ++ []).reverse .closed) outer := rfl
  rw [hs, run_append, run_cons, run_nil, (h true [] outer).step_eq _ (by decide), hc,
    List.append_nil, List.reverse_reverse]

theorem scansValue_emptyObject {blanks : Spelling} (hb : blanks.all isBlank = true) :
    ScansValue (.object [] .closed) ('\x7b'.toUInt8 :: (blanks ++ ['\x7d'.toUInt8])) := by
  refine scansValue_of_run (by decide) fun outer => ?_
  have hs : start outer '\x7b'.toUInt8 = .key true [] outer := rfl
  rw [hs, run_append, run_blanks (step_key_blank true [] outer) hb]
  rfl

theorem scansValue_object {members : List (Spelling × Node)} {text : Spelling}
    (h : Scans (.members members) text) :
    ScansValue (.object members .closed) ('\x7b'.toUInt8 :: (text ++ ['\x7d'.toUInt8])) := by
  refine scansValue_of_run (by decide) fun outer => ?_
  have hs : start outer '\x7b'.toUInt8 = .key true [] outer := rfl
  have hc : step (.objectMark (members.reverse ++ []) outer) '\x7d'.toUInt8 =
      complete (.object (members.reverse ++ []).reverse .closed) outer := rfl
  rw [hs, run_append, run_cons, run_nil, (h true [] outer).step_eq _ (by decide), hc,
    List.append_nil, List.reverse_reverse]

theorem scans_item {node : Node} {items : List Node} {text others : Spelling}
    (h : Scans (.spaced node) text) (hr : Scans (.items items) others) :
    Scans (.items (node :: items)) (text ++ (','.toUInt8 :: others)) := by
  intro first done outer
  have hs := (opens_item first done outer).run_spaced h
  have hc : step (.listMark (node :: done) outer) ','.toUInt8 = .item false (node :: done) outer :=
    rfl
  have he : (node :: items).reverse ++ done = items.reverse ++ (node :: done) := by simp
  rw [run_append, run_cons, hs.step_eq _ (by decide), complete, hc, he]
  exact hr false (node :: done) outer

theorem scans_member {key before gap text : Spelling} {node : Node}
    (hb : before.all isBlank = true) (hk : IsText key) (hg : gap.all isBlank = true)
    (h : Scans (.spaced node) text) :
    Scans (.member key node)
      (before ++ ('"'.toUInt8 :: (key ++ ('"'.toUInt8 :: (gap ++ (':'.toUInt8 :: text)))))) := by
  intro first done outer
  have hs : step (.key first done outer) '"'.toUInt8 = .keyText .none [] done outer := rfl
  have hr : run (.keyText .none [] done outer) key =
      .keyText .none (key.reverse ++ []) done outer := by
    refine run_text (fun escape spelling => .keyText escape spelling done outer) ?_ hk []
    intro escape b next hn spelling
    simp only [step, hn]
  have he : step (.keyText .none (key.reverse ++ []) done outer) '"'.toUInt8 =
      .colon done (key.reverse ++ []).reverse outer := rfl
  have hc (b : UInt8) (hb : isBlank b = true) :
      step (.colon done key outer) b = .colon done key outer := by simp [step, hb]
  have hv : step (.colon done key outer) ':'.toUInt8 = .value (.object done key :: outer) := rfl
  rw [run_append, run_blanks (step_key_blank first done outer) hb, run_cons, hs, run_append, hr,
    run_cons, he, List.append_nil, List.reverse_reverse, run_append, run_blanks hc hg, run_cons, hv]
  exact (opens_value _).run_spaced h

theorem scans_members {key text others : Spelling} {node : Node}
    {members : List (Spelling × Node)} (h : Scans (.member key node) text)
    (hr : Scans (.members members) others) :
    Scans (.members ((key, node) :: members)) (text ++ (','.toUInt8 :: others)) := by
  intro first done outer
  have hc : step (.objectMark ((key, node) :: done) outer) ','.toUInt8 =
      .key false ((key, node) :: done) outer := rfl
  have he : ((key, node) :: members).reverse ++ done =
      members.reverse ++ ((key, node) :: done) := by simp
  rw [run_append, run_cons, (h first done outer).step_eq _ (by decide), hc, he]
  exact hr false ((key, node) :: done) outer

theorem scans_of_writes {piece : Piece} {text : Spelling} (h : Writes piece text) :
    Scans piece text := by
  -- The states around a piece stay open in what the induction shows of it, as a piece inside of
  -- brackets is met with other brackets open than the whole.
  induction h with
  | null => exact scansValue_of_run (by decide) fun _ => rfl
  | true => exact scansValue_of_run (by decide) fun _ => rfl
  | false => exact scansValue_of_run (by decide) fun _ => rfl
  | number h => exact scansValue_number h
  | text h => exact scansValue_text h
  | emptyList hb => exact scansValue_emptyList hb
  | list _ ih => exact scansValue_list ih
  | emptyObject hb => exact scansValue_emptyObject hb
  | object _ ih => exact scansValue_object ih
  | spaced hb _ ha ih => exact ⟨_, _, _, rfl, hb, ih, ha⟩
  | lastItem _ ih => exact fun first done outer => (opens_item first done outer).run_spaced ih
  | item _ _ ih ihr => exact scans_item ih ihr
  | member hb hk hg _ ih => exact scans_member hb hk hg ih
  | lastMember _ ih => exact ih
  | members _ _ ih ihr => exact scans_members ih ihr

theorem run_over (node : Node) (done text : Spelling) :
    run (.over node done) text = .over node (text.reverse ++ done) := by
  induction text generalizing done with
  | nil => rfl
  | cons b text ih =>
    have hs : step (.over node done) b = .over node (b :: done) := rfl
    rw [run_cons, hs, ih, List.reverse_cons, List.append_assoc, List.singleton_append]

/-- Outside of all brackets a value is over, and blanks after it are left. -/
theorem Settles.finish_blanks {s : State} {node : Node} (h : Settles s (complete node []))
    {blanks : Spelling} (hb : blanks.all isBlank = true) :
    finish (run s blanks) = (node, blanks) := by
  cases blanks with
  | nil => exact h.finish_eq
  | cons b blanks =>
    rw [List.all_cons, Bool.and_eq_true] at hb
    have hs : step (complete node []) b = .over node [b] := rfl
    rw [run_cons, h.step_eq b (mem_ends_of_isBlank hb.1), hs, run_over]
    simp [finish]

end Scan

/-- The scanner reads a text back to the node that it is written from, and leaves blanks only. -/
theorem scan_of_writes {node : Node} {text : Spelling} (h : Writes (.spaced node) text) :
    ∃ blanks, scan text = (node, blanks) ∧ blanks.all isBlank = true := by
  obtain ⟨before, value, after, rfl, hb, ⟨b, rest, rfl, hv, hr⟩, ha⟩ := Scan.scans_of_writes h
  have ho := Scan.opens_value []
  refine ⟨after, ?_, ha⟩
  rw [scan, Scan.run_append, Scan.run_blanks ho.step_blank hb, List.cons_append, Scan.run_cons,
    ho.step_start b hv, Scan.run_append]
  exact (hr []).finish_blanks ha

end WebhookRelay.Payload
