import ShipSlap.Json.Loose
import ShipSlap.Ledger
import ShipSlap.Text.Utf8
/-!
Bundles: transactions handed over together, in dependency order, the last being the subject
of the bundle. A bundle travels as bytes: the JSON text of the list of its transactions, each
an object with its `txid` (hexadecimal) and `outputs`, each output an object with its
`satoshis` and `lockingScript` (a list of byte values). Reading takes a record also as an array
of its fields in order, and of members it does not know checks only the form. Bytes that do
not read so are a malformed bundle.
-/
namespace ShipSlap.Advertiser

/-- Why bytes do not give a bundle, or a bundle no subject. -/
inductive BundleError where
  | malformed (reason : String)
  | empty
  deriving DecidableEq, Repr

/-- The text of a bundle error. -/
def BundleError.message : BundleError → String
  | .malformed reason => "Malformed bundle: " ++ reason
  | .empty => "Bundle contains no transactions"

/-- The JSON value of an output. -/
def outputJson (o : TxOutput) : Json :=
  .obj [("satoshis", Json.ofNat o.satoshis),
    ("lockingScript", .arr (o.lockingScript.map fun b => Json.ofNat b.toNat))]

/-- The JSON value of a transaction. -/
def transactionJson (tx : LedgerTransaction) : Json :=
  .obj [("txid", .str tx.txid.toHex), ("outputs", .arr (tx.outputs.map outputJson))]

/-- The bytes of a bundle of transactions. -/
def encode (txs : List LedgerTransaction) : Bytes :=
  Bytes.ofString (Json.arr (txs.map transactionJson)).render

/-- A whole number below `2 ^ bits`. -/
def readBelow (bits : Nat) (j : Json.Loose) : Option Nat :=
  match j.number? with
  | some (.nat n) => if n < Nat.pow 2 bits then some n else none
  | _ => none

/-- Reads an output. -/
def readOutput (j : Json.Loose) : Option TxOutput := do
  match ← j.fields? ["satoshis", "lockingScript"] with
  | [s, script] =>
    let bytes ← (← script.items?).mapM fun b => (readBelow 8 b).map Nat.toUInt8
    return ⟨← readBelow 64 s, bytes⟩
  | _ => none

/-- Reads a transaction. -/
def readTransaction (j : Json.Loose) : Option LedgerTransaction := do
  match ← j.fields? ["txid", "outputs"] with
  | [t, outs] =>
    return ⟨← (Txid.parse (← t.text?)).toOption, ← (← outs.items?).mapM readOutput⟩
  | _ => none

/-- The transactions of a bundle. Members other than those read are only checked for their
form. -/
def decode (bs : Bytes) : Except BundleError (List LedgerTransaction) :=
  let txs : Option (List LedgerTransaction) := do
    (← (← Json.readLooseBytes bs).items?).mapM readTransaction
  match txs with
  | some txs => .ok txs
  | none => .error (.malformed "undecodable bundle")

/-- The subject of a bundle: its last transaction. -/
def subjectTransaction (bs : Bytes) : Except BundleError LedgerTransaction := do
  match (← decode bs).getLast? with
  | some tx => .ok tx
  | none => .error .empty

end ShipSlap.Advertiser
