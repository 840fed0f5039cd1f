import WebhookRelay.Text.Blank
import WebhookRelay.Text.Cut
import WebhookRelay.Timestamp

/-!
Reading a timestamp from the relaxed form of RFC 3339: blanks may stand before each number and
sign, and months, days and times may have one digit.
-/

namespace WebhookRelay.Timestamp

inductive Fault where
  | invalid
  | tooShort
  | outOfRange
  | impossible
  | trailing
  deriving DecidableEq, Repr

def Fault.message : Fault → String
  | invalid => "input contains invalid characters"
  | tooShort => "premature end of input"
  | outOfRange => "input is out of range"
  | impossible => "no possible date and time matching input"
  | trailing => "trailing input"

def digit? (c : Char) : Option Nat :=
  if c.isDigit then some (c.toNat - '0'.toNat) else none

def ofDigits (digits : List Char) : Nat :=
  digits.foldl (fun n c => 10 * n + (c.toNat - '0'.toNat)) 0

/-- The number at the front, of `width` digits at most. -/
def number (width : Nat) (text : List Char) : Except Fault (Nat × List Char) :=
  let digits := (text.take width).takeWhile Char.isDigit
  if digits.isEmpty then .error (if text.isEmpty then .tooShort else .invalid)
  else .ok (ofDigits digits, text.drop digits.length)

/-- The number behind blanks, of one or two digits, between `low` and `high`. -/
def field (low high : Nat) (text : List Char) : Except Fault (Nat × List Char) := do
  let (n, rest) ← number 2 (Text.trimStart text)
  if low ≤ n && n ≤ high then .ok (n, rest) else .error .outOfRange

def mark (c : Char) (text : List Char) : Except Fault (List Char) :=
  match text with
  | [] => .error .tooShort
  | d :: rest => if d == c then .ok rest else .error .invalid

/-- Unsigned years have four digits at most, signed ones any number of them. -/
def yearField (text : List Char) : Except Fault (Int × List Char) :=
  let text := Text.trimStart text
  let signed (sign : Int) (rest : List Char) : Except Fault (Int × List Char) := do
    let (n, rest) ← number rest.length rest
    let year := sign * n
    if -2147483648 ≤ year && year < 2147483648 then .ok (year, rest) else .error .outOfRange
  match text with
  | '-' :: rest => signed (-1) rest
  | '+' :: rest => signed 1 rest
  | _ => (number 4 text).map fun (n, rest) => (n, rest)

/-- Digits past the ninth are dropped. -/
def fraction (text : List Char) : Except Fault (Nat × List Char) :=
  match text with
  | '.' :: rest => do
    let (n, after) ← number 9 rest
    .ok (n * Nat.pow 10 (9 - (rest.length - after.length)), after.dropWhile Char.isDigit)
  | _ => .ok (0, text)

/-- Exactly two digits. A character outside ASCII takes the place of two. -/
def pair (text : List Char) : Except Fault ((Nat × Nat) × List Char) :=
  match text with
  | [] => .error .tooShort
  | [c] => .error (if c.toNat < 0x80 then .tooShort else .invalid)
  | c :: d :: rest =>
    match digit? c, digit? d with
    | some x, some y => .ok ((x, y), rest)
    | _, _ => .error .invalid

def clockOffset (sign : Int) (text : List Char) : Except Fault (Int × List Char) := do
  let ((h, h'), rest) ← pair text
  let rest := rest.dropWhile fun c => c == ':' || Text.isBlank c
  let ((m, m'), rest) ← pair rest
  if 6 ≤ m then .error .outOfRange
  else .ok (sign * (60 * (10 * h + h') + (10 * m + m') : Nat), rest)

def utc : List Char := "UTC".toList

def offsetField (text : List Char) : Except Fault (Int × List Char) :=
  if (text.take 3).map Char.toUpper == utc then .ok (0, text.drop 3)
  else
    match text with
    | [] => .error .tooShort
    | c :: rest =>
      if c == 'Z' || c == 'z' then .ok (0, rest)
      else if c == '+' then clockOffset 1 rest
      else if c == '-' || c == '\u2212' then clockOffset (-1) rest
      else .error .invalid

/-- The last day that the calendar holds lies in this year, and the first one in `firstYear`. -/
def lastYear : Int := 262142

def firstYear : Int := -262143

/-- Whether the moment's day in UTC lies outside the calendar. -/
def leavesCalendar (t : Timestamp) : Bool :=
  let utcMinutes := 60 * (t.hour : Int) + t.minute - t.offset
  (t.year == firstYear && t.month == 1 && t.day == 1 && utcMinutes < 0) ||
    (t.year == lastYear && t.month == 12 && t.day == 31 && 1440 ≤ utcMinutes)

def parse (text : String) : Except Fault Timestamp := do
  let (year, rest) ← yearField text.toList
  let rest ← mark '-' (Text.trimStart rest)
  let (month, rest) ← field 1 12 rest
  let rest ← mark '-' (Text.trimStart rest)
  let (day, rest) ← field 1 31 rest
  let rest ←
    match rest with
    | [] => .error .tooShort
    | c :: rest => if c == 'T' || c == 't' || c == ' ' then .ok rest else .error .invalid
  let (hour, rest) ← field 0 23 rest
  let rest ← mark ':' (Text.trimStart rest)
  let (minute, rest) ← field 0 59 rest
  let rest ← mark ':' (Text.trimStart rest)
  let (second, rest) ← field 0 60 rest
  let (nano, rest) ← fraction rest
  let (offset, rest) ← offsetField (Text.trimStart rest)
  if !(Text.trimStart rest).isEmpty then .error .trailing
  else if year < firstYear || lastYear < year then .error .outOfRange
  else if valid : 1 ≤ month ∧ month ≤ 12 ∧ 1 ≤ day ∧ day ≤ daysInMonth year month ∧ hour ≤ 23 ∧
      minute ≤ 59 ∧ second ≤ 60 ∧ nano < 1000000000 ∧ offset.natAbs < 1440 then
    let t : Timestamp := { year, month, day, hour, minute, second, nano, offset, valid }
    if leavesCalendar t then .error .impossible else .ok t
  else .error .outOfRange

end WebhookRelay.Timestamp
