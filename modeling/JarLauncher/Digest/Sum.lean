import JarLauncher.Digest.Block

/-! Sums over the octets of a message, which tell whether it was damaged. -/

namespace JarLauncher.Digest.Sum

/-- the remainder by a polynomial, with the next octet -/
def divide (r : BitVec 32) (b : UInt8) : BitVec 32 :=
  (List.range 8).foldl (fun r _ => if r.msb then r <<< 1 ^^^ 0x04c11db7 else r <<< 1)
    (r ^^^ BitVec.ofNat 32 b.toNat <<< 24)

/-- the octets of a number without zeros at the end, the low ones first -/
def lengthOctets : Nat → Nat → Bytes
  | 0, _ => []
  | fuel + 1, n => if n = 0 then [] else n.toUInt8 :: lengthOctets fuel (n / 256)

/-- the cyclic sum of a message and its length -/
def cyclic (message : ByteArray) : Nat :=
  let r := message.foldl divide 0
  (~~~((lengthOctets message.size message.size).foldl divide r)).toNat

/-- the sum that is turned by a bit before each octet -/
def turning (message : ByteArray) : Nat :=
  (message.foldl (fun (s : BitVec 16) b => s.rotateRight 1 + BitVec.ofNat 16 b.toNat) 0).toNat

/-- the plain sum, folded to sixteen bits -/
def plain (message : ByteArray) : Nat :=
  let s := message.foldl (fun s b => s + b.toNat) 0 % 4294967296
  let r := s % 65536 + s / 65536
  r % 65536 + r / 65536

end JarLauncher.Digest.Sum
