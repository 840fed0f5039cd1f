import WebhookRelay.Digest.Block

/-!
HMAC: a digest of a message under a key.
-/

namespace WebhookRelay.Digest.BlockHash

/-- The key filled with zeros up to a block, or its digest if it is longer than that. -/
def blockKey (hash : BlockHash) (key : List UInt8) : List UInt8 :=
  let short := if 64 < key.length then hash.digest key else key
  short ++ List.replicate (64 - short.length) (0 : UInt8)

def keyed (hash : BlockHash) (key message : List UInt8) : List UInt8 :=
  let key := hash.blockKey key
  hash.digest (key.map (· ^^^ 0x5C) ++ hash.digest (key.map (· ^^^ 0x36) ++ message))

end WebhookRelay.Digest.BlockHash
