import WebhookRelay.Text.Hex
import WebhookRelay.Text.Utf8

/-!
Percent-encoded text: a byte may be spelled as `%` and its two hexadecimal digits.
-/

namespace WebhookRelay.Text.Percent

def hexValue? (b : UInt8) : Option Nat := Hex.value? (Char.ofNat b.toNat)

/-- Replaces each `%` and two digits by the byte they spell. Any other `%` stands for itself. -/
def decode : List UInt8 → List UInt8
  | 0x25 :: a :: b :: rest =>
    match hexValue? a, hexValue? b with
    | some x, some y => UInt8.ofNat (16 * x + y) :: decode rest
    | _, _ => 0x25 :: decode (a :: b :: rest)
  | c :: rest => c :: decode rest
  | [] => []

/-- The bytes of a character, spelled in upper case. -/
def encodeChar (c : Char) : List Char :=
  (Utf8.encode (String.singleton c)).flatMap fun b => '%' :: (Hex.encodeByte b).map Char.toUpper

/-- Spells out the characters for which `p` holds, and those beyond ASCII. -/
def encode (p : Char → Bool) (text : List Char) : List Char :=
  text.flatMap fun c => if p c || 0x80 ≤ c.toNat then encodeChar c else [c]

end WebhookRelay.Text.Percent
