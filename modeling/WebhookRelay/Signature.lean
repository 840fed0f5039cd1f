import WebhookRelay.Digest.Keyed
import WebhookRelay.Digest.Sha1
import WebhookRelay.Digest.Sha256
import WebhookRelay.Text.Cut
import WebhookRelay.Text.Hex
import WebhookRelay.Text.Utf8

/-!
The proofs of authenticity that a delivery can carry in a header: a keyed digest of the body,
or the shared secret itself.
-/

namespace WebhookRelay

inductive Algorithm where
  | sha1
  | sha256
  deriving DecidableEq, Repr

namespace Algorithm

def hash : Algorithm → Digest.BlockHash
  | sha1 => Digest.Sha1.hash
  | sha256 => Digest.Sha256.hash

/-- The keyed digest in lower-case hexadecimal. -/
def sign (algorithm : Algorithm) (key data : List UInt8) : String :=
  String.ofList (Text.Hex.encode (algorithm.hash.keyed key data))

/-- Whether `signature` spells the keyed digest. What is not hexadecimal never does. -/
def verify (algorithm : Algorithm) (key data : List UInt8) (signature : String) : Bool :=
  match Text.Hex.decode? signature.toList with
  | some bytes => bytes == algorithm.hash.keyed key data
  | none => false

end Algorithm

/-- Compares two secrets byte by byte, in a time that shows nothing but their lengths. -/
def tokenMatches (provided expected : String) : Bool :=
  let provided := Text.Utf8.encode provided
  let expected := Text.Utf8.encode expected
  provided.length == expected.length &&
    (provided.zip expected).foldl (fun diff (x, y) => diff ||| (x ^^^ y)) (0 : UInt8) == 0

/-- How the value of a signature header is checked. A digest may stand behind a lead such as
`sha256=`. -/
inductive Scheme where
  | token
  | digest (algorithm : Algorithm) (lead : Option String)
  deriving DecidableEq, Repr

def Scheme.verify (scheme : Scheme) (key : String) (body : List UInt8) (value : String) : Bool :=
  match scheme with
  | .token => tokenMatches value key
  | .digest algorithm none => algorithm.verify (Text.Utf8.encode key) body value
  | .digest algorithm (some lead) =>
    match Text.stripLead? lead.toList value.toList with
    | some signature => algorithm.verify (Text.Utf8.encode key) body (String.ofList signature)
    | none => false

structure SignatureHeader where
  name : String
  scheme : Scheme
  deriving DecidableEq, Repr

end WebhookRelay
