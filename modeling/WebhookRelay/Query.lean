import WebhookRelay.Text.Cut
import WebhookRelay.Text.Percent
import WebhookRelay.Text.Utf8

/-!
Query strings in the `application/x-www-form-urlencoded` format, read as names with values.
-/

namespace WebhookRelay.Query

/-- Reads a name or a value: a plus is a space, and broken text is replaced. -/
def decodePart (bytes : List UInt8) : String :=
  Text.Utf8.decodeLossy (Text.Percent.decode (bytes.map fun b => if b == 0x2B then 0x20 else b))

/-- The pairs between `&`s, each cut at its first `=`. A piece without one is a name. -/
def params (query : String) : List (String × String) :=
  let pieces := (Text.Utf8.encode query).splitOn 0x26
  (pieces.filter (!·.isEmpty)).map fun piece =>
    match Text.splitFirst? 0x3D piece with
    | some (name, value) => (decodePart name, decodePart value)
    | none => (decodePart piece, "")

end WebhookRelay.Query
