/-!
Hashes that absorb a message in blocks of sixteen 32-bit words, with the most significant byte
of a word first.
-/

namespace WebhookRelay.Digest

def rotateLeft (x : UInt32) (n : UInt32) : UInt32 := (x <<< n) ||| (x >>> (32 - n))

def rotateRight (x : UInt32) (n : UInt32) : UInt32 := rotateLeft x (32 - n)

def wordsOfBytes : List UInt8 → List UInt32
  | a :: b :: c :: d :: rest =>
    ((a.toUInt32 <<< 24) ||| (b.toUInt32 <<< 16) ||| (c.toUInt32 <<< 8) ||| d.toUInt32) ::
      wordsOfBytes rest
  | _ => []

def bytesOfWord (w : UInt32) : List UInt8 :=
  [(w >>> 24).toUInt8, (w >>> 16).toUInt8, (w >>> 8).toUInt8, w.toUInt8]

/-- The message, a one bit, zeros up to eight bytes short of a block, and the message's length
in bits. -/
def pad (message : List UInt8) : List UInt8 :=
  let length := message.length
  let bits := UInt64.ofNat (8 * length)
  message ++ 0x80 :: List.replicate ((119 - length % 64) % 64) (0 : UInt8) ++
    bytesOfWord (bits >>> 32).toUInt32 ++ bytesOfWord bits.toUInt32

/-- One hash: the first state, how a block changes it, and the words read off at the end. -/
structure BlockHash where
  State : Type
  start : State
  absorb : State → List UInt32 → State
  words : State → List UInt32

namespace BlockHash

def absorbAll (hash : BlockHash) (state : hash.State) (bytes : List UInt8) : hash.State :=
  match bytes with
  | [] => state
  | b :: rest =>
    hash.absorbAll (hash.absorb state (wordsOfBytes ((b :: rest).take 64))) ((b :: rest).drop 64)
termination_by bytes.length
decreasing_by simp only [List.length_drop, List.length_cons]; omega

def digest (hash : BlockHash) (message : List UInt8) : List UInt8 :=
  (hash.words (hash.absorbAll hash.start (pad message))).flatMap bytesOfWord

end BlockHash

end WebhookRelay.Digest
