import ShipSlap.Curve.Ecdsa
import ShipSlap.Bytes.Hex
/-!
Private and public keys of secp256k1, their text forms, ECDH shared secrets and the child keys
of an invoice. A child key moves a key by a tweak: the HMAC-SHA-256 of the invoice under the
shared secret, reduced modulo the group order. The private side adds the tweak to the scalar; the
public side adds the tweak's multiple of the base point, so both sides of a shared secret reach
the same child public key.
-/
namespace ShipSlap

open Secp256k1

/-- Why a key operation failed. -/
inductive CryptoError where
  | invalidPublicKey
  | invalidPrivateKey
  | invalidHex (e : HexError)
  | invalidDerivation (reason : String)
  | derivationFailed
  deriving Repr, DecidableEq

/-- The wording of a key error. -/
def CryptoError.message : CryptoError → String
  | .invalidPublicKey => "Invalid public key"
  | .invalidPrivateKey => "Invalid private key"
  | .invalidHex e => "Invalid hex: " ++ e.message
  | .invalidDerivation reason => "Invalid derivation input: " ++ reason
  | .derivationFailed => "Key derivation produced an invalid key"

/-- A private key: a scalar in `[1, n)`. -/
structure PrivateKey where
  scalar : Nat
  valid : 0 < scalar ∧ scalar < groupOrder

/-- A public key: a point of the curve. The readers accept only points on the curve other than
infinity, and the multiples and sums built from them stay such points. -/
structure PublicKey where
  point : Point
  deriving DecidableEq, Repr

namespace PublicKey

/-- The 33-byte compressed encoding. -/
def toBytes (k : PublicKey) : Bytes :=
  k.point.toCompressed

/-- The compressed encoding in lowercase hexadecimal. -/
def toHex (k : PublicKey) : String :=
  Bytes.toHex k.toBytes

/-- Reads a key in a SEC 1 encoding; the point at infinity is refused. -/
def ofBytes (bs : Bytes) : Except CryptoError PublicKey :=
  match Point.ofBytes? bs with
  | some (.affine x y) => .ok ⟨.affine x y⟩
  | _ => .error .invalidPublicKey

/-- Reads a key from hexadecimal text. -/
def ofHex (s : String) : Except CryptoError PublicKey :=
  match Hex.decode s with
  | .ok bs => ofBytes bs
  | .error e => .error (.invalidHex e)

/-- The text `PublicKey(<hex>)` that names a key in diagnostics. -/
def describe (k : PublicKey) : String :=
  "PublicKey(" ++ k.toHex ++ ")"

/-- Whether `sig` (DER) is a valid low-`s` signature of the SHA-256 digest of `data`. A
signature that is not strict DER is simply not valid. -/
def verify (k : PublicKey) (data sig : Bytes) : Bool :=
  match Signature.ofDer? sig with
  | some s => verifyDigest k.point (sha256 data) s
  | none => false

end PublicKey

namespace PrivateKey

/-- Reads a key from 32 big-endian bytes; the scalar must lie in `[1, n)`. -/
def ofBytes (bs : Bytes) : Except CryptoError PrivateKey :=
  if h : bs.length = 32 ∧ 0 < Bytes.toNat bs ∧ Bytes.toNat bs < groupOrder then
    .ok ⟨Bytes.toNat bs, h.2⟩
  else .error .invalidPrivateKey

/-- Reads a key from hexadecimal text of 32 bytes. -/
def ofHex (s : String) : Except CryptoError PrivateKey :=
  match Hex.decode s with
  | .ok bs => ofBytes bs
  | .error e => .error (.invalidHex e)

/-- The key with scalar one, known to everybody: its public key is the base point. -/
def anyone : PrivateKey :=
  ⟨1, by decide⟩

/-- The public key: the scalar's multiple of the base point. -/
def publicKey (k : PrivateKey) : PublicKey :=
  ⟨Point.smul k.scalar Point.base⟩

/-- The ECDH shared secret with `other`: the compressed encoding of the product point. -/
def sharedSecret (k : PrivateKey) (other : PublicKey) : Bytes :=
  (Point.smul k.scalar other.point).toCompressed

/-- The DER signature of the SHA-256 digest of `data`. -/
def sign (k : PrivateKey) (data : Bytes) : Bytes :=
  (signDigest k.scalar (sha256 data)).toDer

/-- The text `PrivateKey(<redacted>, public=<hex>)` that names a key in diagnostics without
showing it. -/
def describe (k : PrivateKey) : String :=
  "PrivateKey(<redacted>, public=" ++ k.publicKey.toHex ++ ")"

end PrivateKey

/-- The tweak of an invoice: HMAC-SHA-256 of the invoice's UTF-8 bytes under the shared secret,
read as a number and reduced modulo the group order. -/
def invoiceTweak (secret : Bytes) (invoice : String) : Nat :=
  Bytes.toNat (hmacSha256 secret (Bytes.ofString invoice)) % groupOrder

/-- The child private key for `invoice` with `counterparty`: the scalar plus the tweak. -/
def PrivateKey.deriveChild (k : PrivateKey) (counterparty : PublicKey) (invoice : String) :
    Except CryptoError PrivateKey :=
  let scalar := (k.scalar + invoiceTweak (k.sharedSecret counterparty) invoice) % groupOrder
  if h : 0 < scalar then .ok ⟨scalar, h, Nat.mod_lt _ (by decide)⟩
  else .error .derivationFailed

/-- The child public key for `invoice`, as seen by the holder of `priv`: the key plus the
tweak's multiple of the base point. -/
def PublicKey.deriveChild (k : PublicKey) (priv : PrivateKey) (invoice : String) :
    Except CryptoError PublicKey :=
  let tweak := invoiceTweak (priv.sharedSecret k) invoice
  match Point.add k.point (Point.smul tweak Point.base) with
  | .infinity => .error .derivationFailed
  | p => .ok ⟨p⟩

end ShipSlap
