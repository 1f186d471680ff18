import JarLauncher.Utf8

/-! Messages in whole blocks of octets, and the words that blocks are made of. -/

namespace JarLauncher.Digest

/-- which octet of a number comes first -/
inductive Order where
  | lowFirst
  | highFirst
  deriving DecidableEq

/-- the last octets of a number -/
def Order.octets (o : Order) (count n : Nat) : Bytes :=
  let low := (List.range count).map fun i => (n >>> (8 * i)).toUInt8
  match o with
  | .lowFirst => low
  | .highFirst => low.reverse

/-- the number that octets are -/
def Order.number (o : Order) (bs : Bytes) : Nat :=
  match o with
  | .lowFirst => bs.foldr (fun b n => n * 256 + b.toNat) 0
  | .highFirst => bs.foldl (fun n b => n * 256 + b.toNat) 0

/-- What is put behind a message of `size` octets to fill the last block: a bit, zeros, and how many
bits the message has, in `room` octets. -/
def filling (o : Order) (block room size : Nat) : Bytes :=
  let used := (size + 1 + room) % block
  128 :: List.replicate (if used = 0 then 0 else block - used) 0 ++ o.octets room (8 * size)

/-- the blocks of octets, of which the last one may be short -/
def blocksFrom (block : Nat) (bs : ByteArray) : Nat → Nat → List ByteArray
  | 0, _ => []
  | fuel + 1, at_ =>
    if bs.size ≤ at_ then []
    else bs.extract at_ (at_ + block) :: blocksFrom block bs fuel (at_ + block)

def blocks (block : Nat) (bs : ByteArray) : List ByteArray := blocksFrom block bs (bs.size + 1) 0

/-- the blocks of a message that is filled up -/
def filledBlocks (o : Order) (block room : Nat) (message : ByteArray) : List ByteArray :=
  blocks block ((filling o block room message.size).foldl ByteArray.push message)

/-- the words of a block, each of so many bits -/
def words (o : Order) (width : Nat) (block : ByteArray) : Array (BitVec width) :=
  ((blocks (width / 8) block).map fun piece =>
    BitVec.ofNat width (o.number piece.toList)).toArray

/-- words as octets again -/
def ofWords (o : Order) {width : Nat} (ws : List (BitVec width)) : Bytes :=
  ws.flatMap fun w => o.octets (width / 8) w.toNat

end JarLauncher.Digest
