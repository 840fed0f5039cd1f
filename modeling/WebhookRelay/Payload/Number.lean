import WebhookRelay.Payload.Scan

/-!
The value of a number: an integer of 64 bits, or else a double.
-/

namespace WebhookRelay.Payload

inductive Number where
  | integer (n : Int)
  | real (x : Float)
  deriving Repr

namespace Number

private def digitValue (b : UInt8) : Nat := b.toNat - 0x30

/-- Appends digits to `n` as long as it fits 64 bits. The others are left. -/
private def absorb (n : Nat) : Spelling → Nat × Spelling
  | [] => (n, [])
  | b :: digits =>
    let next := 10 * n + digitValue b
    if next < UInt64.size then absorb next digits else (n, b :: digits)

/-- `x` moved by a power of ten. The steps are divisions and multiplications of doubles, each
rounded, and a step cannot go beyond `1e308`. -/
private def shift (x : Float) (down : Bool) (places : Nat) : Except Fault Float :=
  if places ≤ 308 then
    let power := Float.ofScientific 1 false places
    if down then .ok (x / power)
    else if (x * power).isInf then .error .numberTooLarge
    else .ok (x * power)
  else if x == 0.0 then .ok x
  else if down then shift (x / Float.ofScientific 1 false 308) down (places - 308)
  else .error .numberTooLarge
termination_by places

/-- The number after the exponent mark. It is cut off where no double is large or small enough. -/
private def exponentOf (text : Spelling) : Int :=
  let size (digits : Spelling) : Int :=
    digits.foldl (fun n b => if n < 10000000000 then 10 * n + digitValue b else n) 0
  match text with
  | [] => 0
  | b :: digits =>
    if is '-' b then -size digits else if is '+' b then size digits else size (b :: digits)

/-- Only what a spelling writes as an integer is one, and minus zero is none. -/
def ofSpelling (spelling : Spelling) : Except Fault Number := do
  let negative := (spelling.head?.map (is '-')).getD false
  let text := if negative then spelling.drop 1 else spelling
  let whole := text.takeWhile isDigit
  let rest := text.dropWhile isDigit
  let (n, surplus) := absorb 0 whole
  if rest.isEmpty && surplus.isEmpty then
    if !negative then return .integer n
    else if 0 < n ∧ n ≤ UInt64.size / 2 then return .integer (-n)
  let pointed := (rest.head?.map (is '.')).getD false
  let fraction := if pointed then (rest.drop 1).takeWhile isDigit else []
  let exponent := (if pointed then (rest.drop 1).dropWhile isDigit else rest).drop 1
  let (digits, unread) := absorb n fraction
  let places : Int :=
    surplus.length - (fraction.length - unread.length : Nat) + exponentOf exponent
  let x ← shift digits.toFloat (places < 0) places.natAbs
  return .real (if negative then -x else x)

end Number

end WebhookRelay.Payload
