import ShipSlap.Hash.Sha256
/-!
HMAC over SHA-256 (RFC 2104): a key longer than a block is hashed first, the key is padded with
zeros to one 64-byte block, and the message is hashed under the inner pad, the result again under
the outer pad. Main statement: `length_hmacSha256`.
-/
namespace ShipSlap

/-- The key as one 64-byte block. -/
def hmacKeyBlock (key : Bytes) : Bytes :=
  let k := if 64 < key.length then sha256 key else key
  k ++ List.replicate (64 - k.length) 0

/-- HMAC-SHA-256 of `msg` under `key`. -/
def hmacSha256 (key msg : Bytes) : Bytes :=
  let k := hmacKeyBlock key
  sha256 (k.map (· ^^^ 0x5c) ++ sha256 (k.map (· ^^^ 0x36) ++ msg))

theorem length_hmacSha256 (key msg : Bytes) : (hmacSha256 key msg).length = 32 :=
  length_sha256 _

end ShipSlap
