import ShipSlap.Key.Wallet
import ShipSlap.Token.Fields
/-!
Signature linkage: an advertisement is linked to its identity when the signature in its last
field verifies, under the key the identity derives for the protocol's linkage context towards
everybody, and the token is locked to that same derived key. Signing builds such a token: the
four unsigned fields, the signature of their concatenation by the wallet's own linkage key, and
the lock to the wallet's own linkage key.
-/
namespace ShipSlap

/-- The derivation context of advertisement keys: level 2, the protocol's name, key id `1`. -/
def linkageContext (p : Protocol) (c : Counterparty) : DerivationContext :=
  ⟨⟨.everyAppAndCounterparty, p.protocolName⟩, "1", c⟩

/-- Why a linkage check could not be carried out. -/
inductive LinkageError where
  | insufficientFields (found : Nat)
  | unknownProtocol (tag : String)
  | missingIdentityKey
  | malformedIdentityKey (hex : String)
  | wallet (e : WalletError)
  deriving Repr, DecidableEq

/-- The wording of a linkage error. -/
def LinkageError.message : LinkageError → String
  | .insufficientFields found =>
    "Insufficient fields: found " ++ toString found ++ ", need at least 3"
  | .unknownProtocol tag => "Unknown protocol tag: " ++ tag
  | .missingIdentityKey => "Missing identity key"
  | .malformedIdentityKey hex => "Malformed identity key: " ++ hex
  | .wallet e => "Wallet error: " ++ e.message

/-- ASCII letters folded to lowercase, all else kept. -/
def asciiFold (s : String) : String :=
  String.ofList (s.toList.map Char.toLower)

/-- Whether the token with `fields` (the signature last) is linked to its claimed identity and
to the locking key `lockingKey` (hexadecimal, compared without blanks around it and without
regard to ASCII case), as checked by wallet `w`. -/
def verifyLinkage (w : ProtoWallet) (lockingKey : String) (fields : List Bytes) :
    Except LinkageError Bool :=
  if fields.length < 3 then .error (.insufficientFields fields.length)
  else
    let tag := fields.headD []
    match Protocol.ofTagBytes? tag with
    | none => .error (.unknownProtocol (Text.decodeUtf8Lossy tag))
    | some p =>
      let identityBytes := fields.getD 1 []
      if identityBytes.isEmpty then .error .missingIdentityKey
      else match PublicKey.ofBytes identityBytes with
        | .error _ => .error (.malformedIdentityKey (Bytes.toHex identityBytes))
        | .ok identity =>
          let data := flattenForSigning fields.dropLast
          let signature := fields.getLastD []
          let ctx := linkageContext p (.other identity)
          match w.verifySignature data signature ctx with
          | .error e => .error (.wallet e)
          | .ok false => .ok false
          | .ok true =>
            match w.getPublicKey ctx false with
            | .error e => .error (.wallet e)
            | .ok expected => .ok (asciiFold expected.toHex == asciiFold (Text.trim lockingKey))

/-- Why a token could not be signed. -/
inductive SigningError where
  | wallet (e : WalletError)
  | codec (e : TokenError)
  deriving Repr, DecidableEq

/-- A signed advertisement token. -/
structure SignedToken where
  lockingKey : PublicKey
  fields : List Bytes
  script : Bytes

/-- Signs an advertisement of `bare` at `domain` for `identity` with wallet `w`: the signature
by the wallet's own linkage key towards everybody, and the lock to that key. -/
def signToken (w : ProtoWallet) (identity : PublicKey) (p : Protocol) (domain bare : String) :
    Except SigningError SignedToken := do
  let ctx := linkageContext p .anyone
  let unsigned := unsignedTokenFields p identity domain bare
  let signature ← (w.createSignature (flattenForSigning unsigned) ctx).mapError .wallet
  let fields := unsigned ++ [signature]
  let key ← (w.getPublicKey ctx true).mapError .wallet
  let script ← (PushDrop.encode fields key).mapError .codec
  pure ⟨key, fields, script⟩

end ShipSlap
