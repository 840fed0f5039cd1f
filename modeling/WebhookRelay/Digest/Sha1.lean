import WebhookRelay.Digest.Block

/-!
SHA-1, a digest of 20 bytes.
-/

namespace WebhookRelay.Digest.Sha1

structure State where
  a : UInt32
  b : UInt32
  c : UInt32
  d : UInt32
  e : UInt32

/-- Lengthens a block, latest word first, by words that mix four earlier ones. -/
def lengthen (latest : List UInt32) : Nat → List UInt32
  | 0 => latest
  | n + 1 =>
    let mixed := latest.getD 2 0 ^^^ latest.getD 7 0 ^^^ latest.getD 13 0 ^^^ latest.getD 15 0
    lengthen (rotateLeft mixed 1 :: latest) n

/-- How round `t` mixes three words, with its constant. -/
def mix (t : Nat) (b c d : UInt32) : UInt32 × UInt32 :=
  if t < 20 then ((b &&& c) ||| (~~~b &&& d), 0x5A827999)
  else if t < 40 then (b ^^^ c ^^^ d, 0x6ED9EBA1)
  else if t < 60 then ((b &&& c) ||| (b &&& d) ||| (c &&& d), 0x8F1BBCDC)
  else (b ^^^ c ^^^ d, 0xCA62C1D6)

def rounds (t : Nat) (s : State) : List UInt32 → State
  | [] => s
  | w :: rest =>
    let (f, k) := mix t s.b s.c s.d
    rounds (t + 1) ⟨rotateLeft s.a 5 + f + s.e + k + w, s.a, rotateLeft s.b 30, s.c, s.d⟩ rest

def absorb (s : State) (block : List UInt32) : State :=
  let r := rounds 0 s (lengthen block.reverse 64).reverse
  ⟨s.a + r.a, s.b + r.b, s.c + r.c, s.d + r.d, s.e + r.e⟩

def hash : BlockHash where
  State := State
  start := ⟨0x67452301, 0xEFCDAB89, 0x98BADCFE, 0x10325476, 0xC3D2E1F0⟩
  absorb := absorb
  words s := [s.a, s.b, s.c, s.d, s.e]

theorem length_digest (message : List UInt8) : (hash.digest message).length = 20 := rfl

end WebhookRelay.Digest.Sha1
