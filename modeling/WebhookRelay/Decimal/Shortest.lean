/-!
The fewest decimal digits that read back as a given binary fraction, and the nearest of those.
-/

namespace WebhookRelay.Decimal

/-- A positive binary fraction `mantissa * 2 ^ exponent` with the numbers that round to it: they
reach `below / 4` of a unit downwards and half a unit upwards, the two ends included if the
mantissa is even. -/
structure Binary where
  mantissa : Nat
  exponent : Int
  below : Nat

/-- The parts of a finite positive double. The step below a power of two is half as wide, except
at the smallest exponent. -/
def Binary.ofBits (bits : Nat) : Binary :=
  let fraction : Nat := bits % (1 <<< 52)
  let level : Nat := (bits >>> 52) % (1 <<< 11)
  if level == 0 then ⟨fraction, -1074, 2⟩
  else ⟨(1 <<< 52) + fraction, (level : Int) - 1075, if fraction == 0 && level != 1 then 1 else 2⟩

/-- A number `digits * 10 ^ exponent`. -/
structure Scaled where
  digits : Nat
  exponent : Int
  deriving DecidableEq, Repr

private def digitCount (n : Nat) : Nat := (Nat.toDigits 10 n).length

/-- The exponent of the first digit of `num / den`. -/
def leadingExponent (num den : Nat) : Int :=
  if den ≤ num then (digitCount (num / den) : Int) - 1
  else -(digitCount ((den + num - 1) / num - 1) : Int)

/-- `x * 4` as a fraction of two naturals. -/
private def quarters (x : Binary) (mantissa : Nat) : Nat × Nat :=
  if 0 ≤ x.exponent then (mantissa <<< x.exponent.toNat, 1)
  else (mantissa, 1 <<< (-x.exponent).toNat)

/-- Whether `d * 10 ^ exponent`, in quarters, rounds to `x`. -/
private def readsBack (x : Binary) (exponent : Int) (d : Nat) : Bool :=
  let (low, den) := quarters x (4 * x.mantissa - x.below)
  let (high, _) := quarters x (4 * x.mantissa + 2)
  let scaled := 4 * d * Nat.pow 10 exponent.toNat * den
  let unit := Nat.pow 10 (-exponent).toNat
  if x.mantissa % 2 == 0 then low * unit ≤ scaled && scaled ≤ high * unit
  else low * unit < scaled && scaled < high * unit

/-- The two neighbours of `x` on the grid of multiples of `10 ^ exponent`, the nearer one first
and the even one first if both are as near. -/
private def neighbours (x : Binary) (exponent : Int) : List Nat :=
  let (num, den) := quarters x x.mantissa
  let num := num * Nat.pow 10 (-exponent).toNat
  let den := den * Nat.pow 10 exponent.toNat
  let low := num / den
  let twice := 2 * (num % den)
  if twice < den || (twice == den && low % 2 == 0) then [low, low + 1] else [low + 1, low]

/-- The first grid, from coarse to fine, on which a neighbour of `x` rounds to `x`. -/
private def search (x : Binary) (top : Int) : Nat → Scaled
  | 0 => ⟨(neighbours x (top - 17)).headD 0, top - 17⟩
  | n + 1 =>
    let exponent := top - (16 - n : Nat)
    match (neighbours x exponent).find? (readsBack x exponent) with
    | some d => ⟨d, exponent⟩
    | none => search x top n

private def dropZeros (d : Scaled) : Nat → Scaled
  | 0 => d
  | n + 1 => if d.digits % 10 == 0 && d.digits != 0 then
      dropZeros ⟨d.digits / 10, d.exponent + 1⟩ n else d

/-- The shortest decimal that reads back as `x`, nearest to it among those of its length. -/
def Binary.shortest (x : Binary) : Scaled :=
  let (num, den) := quarters x x.mantissa
  dropZeros (search x (leadingExponent num den) 17) 17

end WebhookRelay.Decimal
