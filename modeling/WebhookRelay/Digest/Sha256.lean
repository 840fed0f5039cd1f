import WebhookRelay.Digest.Block

/-!
SHA-256, a digest of 32 bytes.
-/

namespace WebhookRelay.Digest.Sha256

structure State where
  a : UInt32
  b : UInt32
  c : UInt32
  d : UInt32
  e : UInt32
  f : UInt32
  g : UInt32
  h : UInt32

/-- One constant for each round. -/
def constants : List UInt32 := [
  0x428A2F98, 0x71374491, 0xB5C0FBCF, 0xE9B5DBA5, 0x3956C25B, 0x59F111F1, 0x923F82A4, 0xAB1C5ED5,
  0xD807AA98, 0x12835B01, 0x243185BE, 0x550C7DC3, 0x72BE5D74, 0x80DEB1FE, 0x9BDC06A7, 0xC19BF174,
  0xE49B69C1, 0xEFBE4786, 0x0FC19DC6, 0x240CA1CC, 0x2DE92C6F, 0x4A7484AA, 0x5CB0A9DC, 0x76F988DA,
  0x983E5152, 0xA831C66D, 0xB00327C8, 0xBF597FC7, 0xC6E00BF3, 0xD5A79147, 0x06CA6351, 0x14292967,
  0x27B70A85, 0x2E1B2138, 0x4D2C6DFC, 0x53380D13, 0x650A7354, 0x766A0ABB, 0x81C2C92E, 0x92722C85,
  0xA2BFE8A1, 0xA81A664B, 0xC24B8B70, 0xC76C51A3, 0xD192E819, 0xD6990624, 0xF40E3585, 0x106AA070,
  0x19A4C116, 0x1E376C08, 0x2748774C, 0x34B0BCB5, 0x391C0CB3, 0x4ED8AA4A, 0x5B9CCA4F, 0x682E6FF3,
  0x748F82EE, 0x78A5636F, 0x84C87814, 0x8CC70208, 0x90BEFFFA, 0xA4506CEB, 0xBEF9A3F7, 0xC67178F2]

/-- Lengthens a block, latest word first, by words that mix four earlier ones. -/
def lengthen (latest : List UInt32) : Nat → List UInt32
  | 0 => latest
  | n + 1 =>
    let x := latest.getD 14 0
    let y := latest.getD 1 0
    let x := rotateRight x 7 ^^^ rotateRight x 18 ^^^ (x >>> 3)
    let y := rotateRight y 17 ^^^ rotateRight y 19 ^^^ (y >>> 10)
    lengthen ((latest.getD 15 0 + x + latest.getD 6 0 + y) :: latest) n

def round (s : State) (k w : UInt32) : State :=
  let e := rotateRight s.e 6 ^^^ rotateRight s.e 11 ^^^ rotateRight s.e 25
  let x := s.h + e + ((s.e &&& s.f) ^^^ (~~~s.e &&& s.g)) + k + w
  let a := rotateRight s.a 2 ^^^ rotateRight s.a 13 ^^^ rotateRight s.a 22
  let y := a + ((s.a &&& s.b) ^^^ (s.a &&& s.c) ^^^ (s.b &&& s.c))
  ⟨x + y, s.a, s.b, s.c, s.d + x, s.e, s.f, s.g⟩

def rounds (s : State) : List UInt32 → List UInt32 → State
  | k :: constants, w :: words => rounds (round s k w) constants words
  | _, _ => s

def absorb (s : State) (block : List UInt32) : State :=
  let r := rounds s constants (lengthen block.reverse 48).reverse
  ⟨s.a + r.a, s.b + r.b, s.c + r.c, s.d + r.d, s.e + r.e, s.f + r.f, s.g + r.g, s.h + r.h⟩

def hash : BlockHash where
  State := State
  start := ⟨0x6A09E667, 0xBB67AE85, 0x3C6EF372, 0xA54FF53A, 0x510E527F, 0x9B05688C, 0x1F83D9AB,
    0x5BE0CD19⟩
  absorb := absorb
  words s := [s.a, s.b, s.c, s.d, s.e, s.f, s.g, s.h]

theorem length_digest (message : List UInt8) : (hash.digest message).length = 32 := rfl

end WebhookRelay.Digest.Sha256
