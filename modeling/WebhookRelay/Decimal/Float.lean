import WebhookRelay.Decimal.Shortest

/-!
The text of a double in a message.
-/

namespace WebhookRelay.Decimal

private def zeros (n : Nat) : List Char := List.replicate n '0'

/-- Positional from `1e-5` up to `1e16`, with a point and a digit after it in any case. Outside
that range one digit stands before the point, and the exponent has a sign. -/
def layout (d : Scaled) : List Char :=
  let digits := Nat.toDigits 10 d.digits
  let top := d.exponent + digits.length - 1
  if 0 ≤ d.exponent && top < 16 then digits ++ zeros d.exponent.toNat ++ ['.', '0']
  else if 0 ≤ top && top < 16 then
    digits.take (top.toNat + 1) ++ '.' :: digits.drop (top.toNat + 1)
  else if -5 ≤ top && top < 0 then ['0', '.'] ++ zeros (-top - 1).toNat ++ digits
  else
    let rest := if digits.length == 1 then [] else '.' :: digits.drop 1
    digits.take 1 ++ rest ++ ['e', if top < 0 then '-' else '+'] ++ Nat.toDigits 10 top.natAbs

/-- The shortest text that reads back as `x`. -/
def ofFloat (x : Float) : String :=
  let bits := x.toBits.toNat
  let sign := if 1 <<< 63 ≤ bits then ['-'] else []
  let size := bits % (1 <<< 63)
  if size == 0 then String.ofList (sign ++ ['0', '.', '0'])
  else String.ofList (sign ++ layout (Binary.ofBits size).shortest)

end WebhookRelay.Decimal
