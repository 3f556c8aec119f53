import ShipSlap.Script.Chunk
import ShipSlap.Key.Basic
/-!
PushDrop tokens: data fields carried by a locking script that pushes them and drops them again,
guarded by `<key> OP_CHECKSIG`. Writing puts the lock first:
`<key> OP_CHECKSIG <field>… OP_2DROP… [OP_DROP]`. Reading also takes the lock last
(`<field>… <drops> <key> OP_CHECKSIG`); the lock is recognised first, the fields are the pushes
that follow it, and what follows them must be drops that remove exactly the fields.
-/
namespace ShipSlap

/-- Why a token could not be read or written. -/
inductive TokenError where
  | truncated (offset : Nat)
  | notPushDrop (reason : String)
  | dropMismatch (pushed dropped : Nat)
  | noFields
  | invalidLockingKey
  | fieldTooLarge (size : Nat)
  | insufficientFields (found required : Nat)
  | unknownProtocol (tag : String)
  | invalidUtf8 (field : String)
  deriving Repr, DecidableEq

/-- The wording of a token error. -/
def TokenError.message : TokenError → String
  | .truncated offset => "Script truncated at offset " ++ toString offset
  | .notPushDrop reason => "Not a PushDrop script: " ++ reason
  | .dropMismatch pushed dropped =>
    "Drop count mismatch: " ++ toString pushed ++ " fields pushed, " ++ toString dropped ++
      " dropped"
  | .noFields => "Script carries no fields"
  | .invalidLockingKey => "Invalid locking public key"
  | .fieldTooLarge size => "Field too large: " ++ toString size ++ " bytes"
  | .insufficientFields found required =>
    "Insufficient fields: found " ++ toString found ++ ", need at least " ++ toString required
  | .unknownProtocol tag => "Unknown protocol tag: " ++ tag
  | .invalidUtf8 field => "Field " ++ field ++ " is not valid UTF-8"

/-- A decoded PushDrop token: the key that locks it and its fields. -/
structure PushDropToken where
  lockingKey : PublicKey
  fields : List Bytes
  deriving DecidableEq

namespace PushDrop

/-- The leading pushes of a chunk list, as data. -/
def leadingPushes : List Chunk → List Bytes
  | .push d :: rest => d :: leadingPushes rest
  | _ => []

/-- The lock and the body of a chunk list: the lock-first layout is tried before the lock-last
one. -/
def splitLock (chunks : List Chunk) : Except TokenError (Chunk × List Chunk) :=
  let checksig := Chunk.op Script.opCheckSig
  match chunks with
  | lock :: second :: body =>
    if second = checksig then .ok (lock, body)
    else if chunks.getLast? = some checksig then
      .ok (chunks.getD (chunks.length - 2) lock, chunks.take (chunks.length - 2))
    else .error (.notPushDrop "no <pubkey> OP_CHECKSIG lock")
  | _ => .error (.notPushDrop "script too short")

/-- The items removed by a run of drop opcodes, or the first chunk that is none. -/
def countDrops : List Chunk → Except TokenError Nat
  | [] => .ok 0
  | c :: rest =>
    match c.dropCount? with
    | some k => (countDrops rest).map (k + ·)
    | none => .error (.notPushDrop ("unexpected chunk after fields: " ++ c.describe))

/-- Reads a PushDrop token. -/
def decode (script : Bytes) : Except TokenError PushDropToken := do
  let chunks ← (Script.parse script).mapError .truncated
  let (lock, body) ← splitLock chunks
  let key ← match lock.data? with
    | some bs => (PublicKey.ofBytes bs).mapError fun _ => .invalidLockingKey
    | none => .error .invalidLockingKey
  let fields := leadingPushes body
  if fields.isEmpty then throw .noFields
  let dropped ← countDrops (body.drop fields.length)
  if dropped ≠ fields.length then throw (.dropMismatch fields.length dropped)
  pure ⟨key, fields⟩

/-- Reads a token that carries at least `required` fields. -/
def requireFields (t : PushDropToken) (required : Nat) : Except TokenError PushDropToken :=
  if t.fields.length < required then .error (.insufficientFields t.fields.length required)
  else .ok t

/-- Reads an advertisement token: a PushDrop token with at least four fields. -/
def decodeToken (script : Bytes) : Except TokenError PushDropToken := do
  requireFields (← decode script) 4

/-- Writes a token in the lock-first layout. -/
def encode (fields : List Bytes) (key : PublicKey) : Except TokenError Bytes :=
  if fields.isEmpty then .error .noFields
  else match fields.find? (fun f => Nat.pow 2 32 ≤ f.length) with
    | some f => .error (.fieldTooLarge f.length)
    | none =>
      .ok (Script.pushData key.toBytes ++ [Script.opCheckSig] ++
        fields.flatMap Script.pushData ++ Script.pushDrops fields.length)

end PushDrop

end ShipSlap
