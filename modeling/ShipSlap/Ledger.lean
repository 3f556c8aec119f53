import ShipSlap.Bytes.Hex
import ShipSlap.Protocol
/-!
References into the ledger and the parts of transactions the discovery layer reads: transaction
ids (32 bytes, written as 64 hexadecimal digits), outpoints (a transaction id and an output
index), transaction outputs, transactions, advertisements and tagged bundles.
-/
namespace ShipSlap

/-- Why a ledger reference could not be read. -/
inductive LedgerError where
  | invalidTxid (text : String)
  | unknownProtocol (text : String)
  deriving Repr, DecidableEq

/-- The wording of a ledger reference error. -/
def LedgerError.message : LedgerError → String
  | .invalidTxid s => "Invalid txid: " ++ s
  | .unknownProtocol s => "Unknown protocol tag: " ++ s

/-- Reads a protocol from its exact tag. -/
def Protocol.parse (s : String) : Except LedgerError Protocol :=
  match Protocol.ofTag? s with
  | some p => .ok p
  | none => .error (.unknownProtocol s)

/-- A transaction id: 32 bytes. -/
structure Txid where
  bytes : Bytes
  length_eq : bytes.length = 32

instance : DecidableEq Txid := fun a b =>
  if h : a.bytes = b.bytes then isTrue (by cases a; cases b; simp_all)
  else isFalse (by intro e; cases e; exact h rfl)

namespace Txid

/-- The lowercase hexadecimal text. -/
def toHex (t : Txid) : String := Bytes.toHex t.bytes

/-- The text `Txid(<hex>)` that names an id in diagnostics. -/
def describe (t : Txid) : String := "Txid(" ++ t.toHex ++ ")"

/-- Reads 64 hexadecimal digits of either case; any other text is refused whole. -/
def parse (s : String) : Except LedgerError Txid :=
  match Hex.decode s with
  | .ok bs => if h : bs.length = 32 then .ok ⟨bs, h⟩ else .error (.invalidTxid s)
  | .error _ => .error (.invalidTxid s)

/-- The id of 28 zero bytes followed by `n` as a big-endian 32-bit number. -/
def ofIndex (n : Nat) : Txid :=
  ⟨List.replicate 28 0 ++ Bytes.ofNat 4 n, by simp⟩

end Txid

/-- An output of a transaction: a transaction id and an index. -/
structure Outpoint where
  txid : Txid
  index : Nat
  deriving DecidableEq

/-- The text `<txid>.<index>`. -/
def Outpoint.render (o : Outpoint) : String :=
  o.txid.toHex ++ "." ++ toString o.index

/-- An output of a transaction as the discovery layer sees it. -/
structure TxOutput where
  satoshis : Nat
  lockingScript : Bytes
  deriving DecidableEq, Repr

/-- A transaction as the discovery layer sees it: its id and outputs. -/
structure LedgerTransaction where
  txid : Txid
  outputs : List TxOutput
  deriving DecidableEq

/-- The output at `index`, if there is one. -/
def LedgerTransaction.output? (tx : LedgerTransaction) (index : Nat) : Option TxOutput :=
  tx.outputs[index]?

/-- A decoded advertisement, with the bundle and output index it was found at when known. -/
structure Advertisement where
  protocol : Protocol
  identityKey : String
  domain : String
  topicOrService : String
  beef : Option Bytes
  outputIndex : Option Nat
  deriving DecidableEq, Repr

/-- A transaction bundle with the topics it is submitted to. -/
structure TaggedBundle where
  beef : Bytes
  topics : List String
  deriving DecidableEq, Repr

end ShipSlap
