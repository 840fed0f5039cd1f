import WebhookRelay.Text.Cut

/-!
Punycode: letters beyond ASCII written with ASCII ones. The code points are inserted in rising
order, and each number says how far on the next insertion is.
-/

namespace WebhookRelay.Url.Punycode

/-- `a` to `z`, then `0` to `9`. -/
def digit (n : Nat) : Char := if n < 26 then Char.ofNat (0x61 + n) else Char.ofNat (0x16 + n)

def value? (c : Char) : Option Nat :=
  if c.isLower then some (c.toNat - 0x61)
  else if c.isUpper then some (c.toNat - 0x41)
  else if c.isDigit then some (c.toNat - 0x16)
  else none

/-- A digit below this bound ends its number. The place of a digit is 36, 72 and so on. -/
def threshold (bias place : Nat) : Nat := min 26 (max 1 (place - bias))

private theorem threshold_pos (bias place : Nat) : 0 < threshold bias place := by
  unfold threshold; omega

private def scale (delta place : Nat) : Nat × Nat :=
  if 455 < delta then scale (delta / 35) (place + 36) else (delta, place)

/-- The bias for the next number, from the last one and the count of characters so far. -/
def adapt (delta count : Nat) (first : Bool) : Nat :=
  let delta := if first then delta / 700 else delta / 2
  let (delta, place) := scale (delta + delta / count) 0
  place + 36 * delta / (delta + 38)

def digits (bias place n : Nat) : List Char :=
  let t := threshold bias place
  if n < t then [digit n]
  else digit (t + (n - t) % (36 - t)) :: digits bias (place + 36) ((n - t) / (36 - t))
termination_by n
decreasing_by
  have := threshold_pos bias place
  have := Nat.div_le_self (n - threshold bias place) (36 - threshold bias place)
  omega

private structure Progress where
  delta : Nat
  bias : Nat
  written : Nat
  text : List Char

/-- One walk over the characters, in which each `point` is written and those below it are passed. -/
private def walk (basics point : Nat) (s : Progress) (c : Char) : Progress :=
  if c.toNat < point then { s with delta := s.delta + 1 }
  else if c.toNat = point then
    { delta := 0
      bias := adapt s.delta (s.written + 1) (s.written == basics)
      written := s.written + 1
      text := s.text ++ digits s.bias 36 s.delta }
  else s

private def walks (text : List Char) (basics : Nat) : List Nat → Nat → Progress → Progress
  | [], _, s => s
  | point :: points, last, s =>
    let s := { s with delta := s.delta + (point - last) * (s.written + 1) }
    let s := text.foldl (walk basics point) s
    walks text basics points (point + 1) { s with delta := s.delta + 1 }

private def isBasic (c : Char) : Bool := c.toNat < 0x80

def encode (text : List Char) : List Char :=
  let basics := text.filter isBasic
  let points := ((text.filter (!isBasic ·)).map Char.toNat).mergeSort.eraseDups
  let s := walks text basics.length points 0x80 ⟨0, 72, basics.length, []⟩
  if basics.isEmpty then s.text else basics ++ '-' :: s.text

/-- Reads the numbers as insertions into what is decoded so far. The current number is to be added
to `start`, and `index` is that sum as far as it is read. -/
private def insertions : (digits decoded : List Char) →
    (point start index weight place bias : Nat) → Option (List Char)
  | [], decoded, _, _, _, _, place, _ => if place = 36 then some decoded else none
  | c :: rest, decoded, point, start, index, weight, place, bias => do
    let d ← value? c
    let index := index + d * weight
    let t := threshold bias place
    if t ≤ d then
      insertions rest decoded point start index (weight * (36 - t)) (place + 36) bias
    else
      let count := decoded.length + 1
      let bias := adapt (index - start) count (start == 0)
      let point := point + index / count
      let index := index % count
      let decoded := decoded.take index ++ Char.ofNat point :: decoded.drop index
      if point.isValidChar then insertions rest decoded point (index + 1) (index + 1) 1 36 bias
      else none

def decode? (text : List Char) : Option (List Char) :=
  match Text.splitLast? '-' text with
  | some (b :: basics, digits) => insertions digits (b :: basics) 0x80 0 0 1 36 72
  | _ => insertions text [] 0x80 0 0 1 36 72

end WebhookRelay.Url.Punycode
