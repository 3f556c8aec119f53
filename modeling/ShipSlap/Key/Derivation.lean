import ShipSlap.Key.Basic
import ShipSlap.Text.Blank
import ShipSlap.Text.Lower
/-!
Derivation contexts. A context names a child key: the protocol it belongs to (a security level
and a protocol name), a key id, and the counterparty the key is shared with. Its invoice number
`"<level>-<name>-<key id>"` is what the child-key tweak hashes. The protocol name is first
normalised (blanks trimmed, lowercased) and must then be 5 to 400 bytes of lowercase letters,
digits and single spaces that does not end in `" protocol"`; the key id must be 1 to 800 bytes.
The key id is checked first.
-/
namespace ShipSlap

/-- How widely a derived key is shared: not at all, per application, or per application and
counterparty. -/
inductive SecurityLevel where
  | silent
  | everyApp
  | everyAppAndCounterparty
  deriving Repr, DecidableEq

/-- The digit of a security level in an invoice number. -/
def SecurityLevel.toNat : SecurityLevel → Nat
  | .silent => 0
  | .everyApp => 1
  | .everyAppAndCounterparty => 2

/-- The security level with the given digit. -/
def SecurityLevel.ofNat? : Nat → Option SecurityLevel
  | 0 => some .silent
  | 1 => some .everyApp
  | 2 => some .everyAppAndCounterparty
  | _ => none

/-- A protocol of derived keys: a security level and a name. -/
structure WalletProtocol where
  level : SecurityLevel
  name : String
  deriving Repr, DecidableEq

/-- Whom a derived key is shared with: everybody (the key of scalar one), the wallet itself, or
another key. -/
inductive Counterparty where
  | anyone
  | self
  | other (key : PublicKey)
  deriving Repr, DecidableEq

/-- A derivation context: which protocol, which key of it, and with whom. -/
structure DerivationContext where
  protocol : WalletProtocol
  keyId : String
  counterparty : Counterparty
  deriving Repr, DecidableEq

/-- Whether a list of characters holds two spaces in a row. -/
def hasDoubleSpace : List Char → Bool
  | ' ' :: ' ' :: _ => true
  | _ :: rest => hasDoubleSpace rest
  | [] => false

/-- A character allowed in a normalised protocol name. -/
def isNameChar (c : Char) : Bool :=
  ('a' ≤ c && c ≤ 'z') || ('0' ≤ c && c ≤ '9') || c = ' '

/-- The protocol name trimmed and lowercased, checked in this order: at least 5 bytes, at most
400 bytes, no two spaces in a row, only lowercase ASCII letters, digits and spaces, and no
`" protocol"` at the end. -/
def WalletProtocol.normalizedName (p : WalletProtocol) : Except CryptoError String :=
  let name := Text.toLower (Text.trim p.name)
  if name.utf8ByteSize < 5 then
    .error (.invalidDerivation "protocol name must be at least 5 characters")
  else if 400 < name.utf8ByteSize then
    .error (.invalidDerivation "protocol name must be at most 400 characters")
  else if hasDoubleSpace name.toList then
    .error (.invalidDerivation "protocol name must not contain consecutive spaces")
  else if !name.toList.all isNameChar then
    .error (.invalidDerivation "protocol name may only contain letters, numbers and spaces")
  else if name.endsWith " protocol" then
    .error (.invalidDerivation "protocol name must not end with \" protocol\"")
  else .ok name

namespace DerivationContext

/-- The invoice number `"<level>-<normalised name>-<key id>"`; the key id must be 1 to 800
bytes, and is checked before the name. -/
def invoiceNumber (ctx : DerivationContext) : Except CryptoError String :=
  if ctx.keyId.isEmpty then .error (.invalidDerivation "key id must not be empty")
  else if 800 < ctx.keyId.utf8ByteSize then
    .error (.invalidDerivation "key id must be at most 800 characters")
  else do
    let name ← ctx.protocol.normalizedName
    pure (toString ctx.protocol.level.toNat ++ "-" ++ name ++ "-" ++ ctx.keyId)

/-- The same context shared with another counterparty. -/
def withCounterparty (ctx : DerivationContext) (c : Counterparty) : DerivationContext :=
  { ctx with counterparty := c }

end DerivationContext

end ShipSlap
