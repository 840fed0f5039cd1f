import WebhookRelay.Text.Blank
import WebhookRelay.Text.LowerCase
import WebhookRelay.Text.Percent
import WebhookRelay.Url.Punycode

/-!
Domain names in their ASCII form: letters in lower case, full-width forms narrowed, and labels
beyond ASCII in Punycode. There is no other mapping: marks are not composed with their letters, and
labels are not checked for the scripts and directions of their characters.
-/

namespace WebhookRelay.Url.Domain

/-- Characters that a name loses: soft hyphens, joiners of words and selectors of variants. -/
def isDropped (c : Char) : Bool :=
  let n := c.toNat
  n == 0xAD || n == 0x34F || (0x180B ≤ n && n ≤ 0x180F) || n == 0x200B || n == 0x2060 ||
    n == 0x2064 || (0xFE00 ≤ n && n ≤ 0xFE0F) || n == 0xFEFF || (0xE0100 ≤ n && n ≤ 0xE01EF)

/-- The normal form of a character in a name. The ideographic full stops separate labels too. -/
def normal (c : Char) : Char :=
  let n := c.toNat
  if n == 0x3002 || n == 0xFF61 then '.'
  else if n == 0x3000 || n == 0xA0 then ' '
  else if 0xFF01 ≤ n && n ≤ 0xFF5E then (Char.ofNat (n - 0xFEE0)).toLower
  else Text.lowerChar c

/-- What no name holds: controls, blanks, the marks of a URL, and characters without a meaning
that two systems agree on. -/
def isForbidden (c : Char) : Bool :=
  let n := c.toNat
  n ≤ 0x20 || (0x7F ≤ n && n ≤ 0x9F) || c ∈ "%#/:<>?@[\\]^|".toList || Text.isBlank c ||
    (0x200C ≤ n && n ≤ 0x200F) || (0x2028 ≤ n && n ≤ 0x202F) || (0x2061 ≤ n && n ≤ 0x206F) ||
    (0xE000 ≤ n && n ≤ 0xF8FF) || (0xFFF0 ≤ n && n ≤ 0xFFFF) || 0xE0000 ≤ n

/-- A label in ASCII. A Punycode label has to spell a normal one that is not ASCII. -/
def label? (text : List Char) : Option (List Char) :=
  match Text.stripLead? "xn--".toList text with
  | some code => do
    let spelled ← Punycode.decode? code
    let isSound (c : Char) := !isDropped c && !isForbidden c && normal c == c
    if spelled.any (0x80 ≤ ·.toNat) && spelled.all isSound then some text else none
  | none =>
    if text.all (·.toNat < 0x80) then some text
    else some ("xn--".toList ++ Punycode.encode text)

/-- The ASCII form of a name that is given in percent-encoded text. -/
def toAscii? (text : List Char) : Option (List Char) := do
  let spelled ← Text.Utf8.decode? (Text.Percent.decode (Text.Utf8.encode (String.ofList text)))
  let name := (spelled.toList.filter (!isDropped ·)).map normal
  if name.any isForbidden then none
  else do
    let labels ← (name.splitOn '.').mapM label?
    some (['.'].intercalate labels)

end WebhookRelay.Url.Domain
