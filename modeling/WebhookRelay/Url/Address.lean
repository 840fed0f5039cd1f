import WebhookRelay.Text.Cut
import WebhookRelay.Text.Hex

/-!
Numeric hosts: IPv4 addresses in their loose notations and IPv6 addresses with the `::` shorthand,
both written in one normal form.
-/

namespace WebhookRelay.Url

/-- The value of digits in a base up to sixteen, none being zero. -/
def numeral? (base : Nat) (digits : List Char) : Option Nat :=
  digits.foldlM (fun n c => do
    let d ← Text.Hex.value? c
    if d < base then some (base * n + d) else none) 0

namespace Ipv4

/-- A part of an address: hexadecimal after `0x`, octal after `0`, else decimal. -/
def part? : List Char → Option Nat
  | [] => none
  | '0' :: 'x' :: digits => numeral? 16 digits
  | '0' :: 'X' :: digits => numeral? 16 digits
  | '0' :: digits => numeral? 8 digits
  | digits => numeral? 10 digits

/-- The parts between dots. One dot at the end does not count. -/
def parts (text : List Char) : List (List Char) :=
  let parts := text.splitOn '.'
  if 1 < parts.length ∧ parts.getLast? = some [] then parts.dropLast else parts

/-- Whether a host is meant as an address: its last part is a number. -/
def claims (text : List Char) : Bool :=
  match (parts text).getLast? with
  | none => false
  | some last => (!last.isEmpty && last.all Char.isDigit) || (part? last).isSome

/-- The last part fills all the bytes that the others, one byte each, leave open. -/
def parse? (text : List Char) : Option Nat := do
  let numbers ← (parts text).mapM part?
  let last ← numbers.getLast?
  let lead := numbers.dropLast
  if lead.length < 4 ∧ lead.all (· < 256) ∧ last < Nat.pow 256 (4 - lead.length) then
    some (lead.foldl (256 * · + ·) 0 * Nat.pow 256 (4 - lead.length) + last)
  else none

def toText (address : Nat) : List Char :=
  ['.'].intercalate ([24, 16, 8, 0].map fun shift => Nat.toDigits 10 (address >>> shift % 256))

end Ipv4

namespace Ipv6

def group? (text : List Char) : Option Nat :=
  if text.isEmpty ∨ 4 < text.length then none else numeral? 16 text

def byte? (text : List Char) : Option Nat :=
  if text.isEmpty ∨ 3 < text.length ∨ (text.head? = some '0' ∧ text ≠ ['0']) then none
  else (numeral? 10 text).filter (· < 256)

/-- Four decimal bytes, as two groups. -/
def dotted? (text : List Char) : Option (List Nat) := do
  match ← (text.splitOn '.').mapM byte? with
  | [a, b, c, d] => some [256 * a + b, 256 * c + d]
  | _ => none

/-- Groups between colons. Where `final`, the last may be four decimal bytes. -/
def groups? (final : Bool) (text : List Char) : Option (List Nat) :=
  let rec go : List (List Char) → Option (List Nat)
    | [] => some []
    | [last] =>
      if final ∧ '.' ∈ last then dotted? last else (group? last).map ([·])
    | g :: rest => do return (← group? g) :: (← go rest)
  if text.isEmpty then some [] else go (text.splitOn ':')

/-- What stands before and after the first `::`. -/
def splitShorthand? : List Char → Option (List Char × List Char)
  | ':' :: ':' :: rest => some ([], rest)
  | c :: rest => (splitShorthand? rest).map fun (before, after) => (c :: before, after)
  | [] => none

/-- The eight groups. `::` stands for at least one group of zero. -/
def parse? (text : List Char) : Option (List Nat) :=
  match splitShorthand? text with
  | none => (groups? true text).filter (·.length = 8)
  | some (before, after) => do
    let lead ← groups? false before
    let tail ← groups? true after
    let known := lead.length + tail.length
    if known < 8 then some (lead ++ List.replicate (8 - known) 0 ++ tail) else none

/-- Where the longest run of zeros starts and how long it is, the first of several. -/
def longestZeros (groups : List Nat) : Nat × Nat :=
  (List.range groups.length).foldl (fun best i =>
    let size := ((groups.drop i).takeWhile (· == 0)).length
    if best.2 < size then (i, size) else best) (0, 0)

/-- Writes `::` for the longest run of two or more zeros. -/
def toText (groups : List Nat) : List Char :=
  let write (groups : List Nat) := [':'].intercalate (groups.map Text.Hex.ofNat)
  let (start, size) := longestZeros groups
  if size < 2 then write groups
  else write (groups.take start) ++ ':' :: ':' :: write (groups.drop (start + size))

end Ipv6

end WebhookRelay.Url
