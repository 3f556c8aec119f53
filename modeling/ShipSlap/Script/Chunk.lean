import ShipSlap.Bytes.Basic
/-!
Script chunks: data pushes and other opcodes, enough of the script language to read and write
PushDrop locks. Reading turns every push form into the data it pushes (`OP_0`, `OP_1NEGATE`,
`OP_1`..`OP_16`, direct pushes of 1 to 75 bytes, `OP_PUSHDATA1/2/4` with a little-endian
length); a push that runs past the end is reported with the offset where its chunk starts.
Writing uses the shortest push form, so each byte string has exactly one written push.
-/
namespace ShipSlap

/-- One chunk of a script: a data push or another opcode. -/
inductive Chunk where
  | push (data : Bytes)
  | op (code : UInt8)
  deriving Repr, DecidableEq

namespace Chunk

/-- The data of a push. -/
def data? : Chunk → Option Bytes
  | .push d => some d
  | .op _ => none

/-- How many stack items a dropping opcode removes: one for `OP_DROP`, two for `OP_2DROP`. -/
def dropCount? : Chunk → Option Nat
  | .op 0x75 => some 1
  | .op 0x6d => some 2
  | _ => none

/-- The text `Push([1, 2, 3])` or `Op(172)` that names a chunk in diagnostics. -/
def describe : Chunk → String
  | .push d => "Push([" ++ ", ".intercalate (d.map fun b => toString b.toNat) ++ "])"
  | .op c => "Op(" ++ toString c.toNat ++ ")"

end Chunk

namespace Script

/-- `OP_CHECKSIG`. -/
def opCheckSig : UInt8 := 0xac

/-- A number read from little-endian bytes. -/
def leValue (bs : Bytes) : Nat := Bytes.toNat bs.reverse

/-- The width of the length field of a push opcode: `OP_PUSHDATA1`, `2` or `4`. -/
def lengthWidth? (op : UInt8) : Option Nat :=
  if op = 0x4c then some 1 else if op = 0x4d then some 2 else if op = 0x4e then some 4 else none

/-- Reads the chunks of a script whose first byte is at offset `pos`; an error is the offset of
a push that runs past the end. -/
def parseFrom (pos : Nat) : Bytes → Except Nat (List Chunk)
  | [] => .ok []
  | op :: rest =>
    if op = 0 then (parseFrom (pos + 1) rest).map (.push [] :: ·)
    else if op = 0x4f then (parseFrom (pos + 1) rest).map (.push [0x81] :: ·)
    else if 0x51 ≤ op ∧ op ≤ 0x60 then (parseFrom (pos + 1) rest).map (.push [op - 0x50] :: ·)
    else if 1 ≤ op ∧ op ≤ 0x4b then
      let n := op.toNat
      if n ≤ rest.length then
        (parseFrom (pos + 1 + n) (rest.drop n)).map (.push (rest.take n) :: ·)
      else .error pos
    else match lengthWidth? op with
      | some w =>
        if w ≤ rest.length then
          let n := leValue (rest.take w)
          let body := rest.drop w
          if n ≤ body.length then
            (parseFrom (pos + 1 + w + n) (body.drop n)).map (.push (body.take n) :: ·)
          else .error pos
        else .error pos
      | none => (parseFrom (pos + 1) rest).map (.op op :: ·)
termination_by bs => bs.length
decreasing_by all_goals simp only [List.length_drop, List.length_cons]; all_goals omega

/-- Reads the chunks of a script. -/
def parse (script : Bytes) : Except Nat (List Chunk) :=
  parseFrom 0 script

/-- The shortest push of a byte string (lengths are written in the low 32 bits). -/
def pushData (d : Bytes) : Bytes :=
  match d with
  | [] => [0]
  | [b] => if 1 ≤ b ∧ b ≤ 16 then [0x50 + b] else if b = 0x81 then [0x4f] else [1, b]
  | _ =>
    let n := d.length
    if n ≤ 0x4b then UInt8.ofNat n :: d
    else if n ≤ 0xff then 0x4c :: UInt8.ofNat n :: d
    else if n ≤ 0xffff then 0x4d :: (Bytes.ofNat 2 n).reverse ++ d
    else 0x4e :: (Bytes.ofNat 4 n).reverse ++ d

/-- Drops for `n` fields: `OP_2DROP` for each pair, then `OP_DROP` for an odd one. -/
def pushDrops (n : Nat) : Bytes :=
  List.replicate (n / 2) 0x6d ++ (if n % 2 = 1 then [0x75] else [])

end Script

end ShipSlap
