import JarLauncher.Digest.Sha

/-! The digest BLAKE2b: blocks of sixteen words are mixed into a state of eight, with a count of the
octets so far and a mark on the last block. -/

namespace JarLauncher.Digest.Blake

abbrev Word := BitVec 64

/-- the words that a state begins with -/
def start : Array Word := (Sha2.startAt 64 0).toList.toArray

/-- the orders in which the words of a block are mixed in, round by round -/
def orders : Array (Array Nat) :=
  #[#[0, 1, 2, 3, 4, 5, 6, 7, 8, 9, 10, 11, 12, 13, 14, 15],
    #[14, 10, 4, 8, 9, 15, 13, 6, 1, 12, 0, 2, 11, 7, 5, 3],
    #[11, 8, 12, 0, 5, 2, 15, 13, 10, 14, 3, 6, 7, 1, 9, 4],
    #[7, 9, 3, 1, 13, 12, 11, 14, 2, 6, 5, 10, 4, 0, 15, 8],
    #[9, 0, 5, 7, 2, 4, 10, 15, 14, 1, 11, 12, 6, 8, 3, 13],
    #[2, 12, 6, 10, 0, 11, 8, 3, 4, 13, 7, 5, 15, 14, 1, 9],
    #[12, 5, 1, 15, 14, 13, 4, 10, 0, 7, 6, 3, 9, 2, 8, 11],
    #[13, 11, 7, 14, 12, 1, 3, 9, 5, 0, 15, 4, 8, 6, 2, 10],
    #[6, 15, 14, 9, 11, 3, 0, 8, 12, 2, 13, 7, 1, 4, 10, 5],
    #[10, 2, 8, 4, 7, 6, 1, 5, 15, 11, 9, 14, 3, 12, 13, 0]]

def rounds : Nat := 12

/-- the places that are mixed with each other: the columns, then the diagonals -/
def quarters : List (Nat × Nat × Nat × Nat) :=
  [(0, 4, 8, 12), (1, 5, 9, 13), (2, 6, 10, 14), (3, 7, 11, 15),
   (0, 5, 10, 15), (1, 6, 11, 12), (2, 7, 8, 13), (3, 4, 9, 14)]

/-- mix two words into four places -/
def mix (x y : Word) (v : Array Word) (q : Nat × Nat × Nat × Nat) : Array Word :=
  let at_ (i : Nat) : Word := v.getD i 0
  let a := at_ q.1 + at_ q.2.1 + x
  let d := (at_ q.2.2.2 ^^^ a).rotateRight 32
  let c := at_ q.2.2.1 + d
  let b := (at_ q.2.1 ^^^ c).rotateRight 24
  let a := a + b + y
  let d := (d ^^^ a).rotateRight 16
  let c := c + d
  let b := (b ^^^ c).rotateRight 63
  (((v.setIfInBounds q.1 a).setIfInBounds q.2.1 b).setIfInBounds q.2.2.1 c).setIfInBounds q.2.2.2 d

def round (ws : Array Word) (v : Array Word) (i : Nat) : Array Word :=
  let order := orders.getD (i % 10) #[]
  let word (k : Nat) : Word := ws.getD (order.getD k 0) 0
  quarters.zipIdx.foldl (fun v (q, k) => mix (word (2 * k)) (word (2 * k + 1)) v q) v

/-- add a block, after which there were `count` octets -/
def add (count : Nat) (last : Bool) (h : Array Word) (block : ByteArray) : Array Word :=
  let low := BitVec.ofNat 64 count
  let high := BitVec.ofNat 64 (count >>> 64)
  let v := (h ++ start).mapIdx fun i w =>
    if i = 12 then w ^^^ low else if i = 13 then w ^^^ high
    else if i = 14 && last then ~~~w else w
  let v := (List.range rounds).foldl (round (words .lowFirst 64 block)) v
  h.mapIdx fun i w => w ^^^ v.getD i 0 ^^^ v.getD (i + 8) 0

def blockSize : Nat := 128

def addFrom : Nat → Array Word → List ByteArray → Array Word
  | _, h, [] => h
  | count, h, [block] =>
    add (count + block.size) true h
      ((List.replicate (blockSize - block.size) 0).foldl ByteArray.push block)
  | count, h, block :: rest =>
    addFrom (count + blockSize) (add (count + blockSize) false h block) rest

/-- a digest of `size` octets -/
def digest (size : Nat) (message : ByteArray) : Bytes :=
  let h := start.mapIdx fun i w => if i = 0 then w ^^^ BitVec.ofNat 64 (0x01010000 + size) else w
  let parts := if message.isEmpty then [message] else blocks blockSize message
  (ofWords .lowFirst (addFrom 0 h parts).toList).take size

end JarLauncher.Digest.Blake
