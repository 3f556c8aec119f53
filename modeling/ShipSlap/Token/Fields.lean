import ShipSlap.Token.PushDrop
import ShipSlap.Ledger
import ShipSlap.Text.Utf8
/-!
The fields of an advertisement token, in fixed order: protocol tag, identity key, domain, bare
name, and the signature over the first four concatenated without delimiters. Reading the first
four checks the tag (exact bytes `SHIP` or `SLAP`) and that domain and name are UTF-8; the
identity key is carried as hexadecimal, unchecked.
-/
namespace ShipSlap

/-- The protocol whose tag is exactly the bytes `tag`. -/
def Protocol.ofTagBytes? (tag : Bytes) : Option Protocol :=
  if tag = Bytes.ofString "SHIP" then some .ship
  else if tag = Bytes.ofString "SLAP" then some .slap
  else none

/-- The four unsigned fields of an advertisement. -/
def unsignedTokenFields (p : Protocol) (identity : PublicKey) (domain bare : String) :
    List Bytes :=
  [Bytes.ofString p.tag, identity.toBytes, Bytes.ofString domain, Bytes.ofString bare]

/-- The bytes a token signature covers: the fields concatenated. -/
def flattenForSigning (fields : List Bytes) : Bytes :=
  fields.flatten

/-- The readable fields of an advertisement token. -/
structure AdvertisementFields where
  protocol : Protocol
  identityKey : String
  domain : String
  bareName : String
  deriving DecidableEq, Repr

namespace AdvertisementFields

/-- Reads the first four fields: tag, identity (as hexadecimal), domain and bare name. -/
def ofFields (fields : List Bytes) : Except TokenError AdvertisementFields :=
  match fields with
  | tag :: identity :: domain :: name :: _ =>
    match Protocol.ofTagBytes? tag with
    | none => .error (.unknownProtocol (Text.decodeUtf8Lossy tag))
    | some p =>
      match Text.decodeUtf8? domain with
      | none => .error (.invalidUtf8 "domain")
      | some d =>
        match Text.decodeUtf8? name with
        | none => .error (.invalidUtf8 "topicOrService")
        | some n => .ok ⟨p, Bytes.toHex identity, d, n⟩
  | _ => .error (.insufficientFields fields.length 4)

/-- The advertised name: the protocol's prefix and the bare name. -/
def fullName (f : AdvertisementFields) : String :=
  f.protocol.fullName f.bareName

end AdvertisementFields

end ShipSlap
