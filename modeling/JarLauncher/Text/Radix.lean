import JarLauncher.Utf8

/-! Octets written with fewer signs: as base 64 and its kin. A group of signs stands for whole
octets; the last group may be filled up with a sign of its own. -/

namespace JarLauncher.Text

structure Radix where
  /-- the signs, of which each stands for so many bits -/
  signs : Bytes
  bits : Nat
  /-- how many signs make a group -/
  group : Nat
  filler : Option UInt8
  /-- the low bits of an octet come first -/
  lowFirst : Bool := false
  /-- a group that is cut off still gives the octets that it holds -/
  givesPart : Bool := false

namespace Radix

def ofSigns (signs : String) (bits group : Nat) : Radix :=
  { signs := Utf8.encode signs, bits := bits, group := group, filler := some 61 }

def upper : String := "ABCDEFGHIJKLMNOPQRSTUVWXYZ"

def digits : String := "0123456789"

def base64 : Radix :=
  { ofSigns (upper ++ upper.map Char.toLower ++ digits ++ "+/") 6 4 with givesPart := true }

def base64url : Radix :=
  { ofSigns (upper ++ upper.map Char.toLower ++ digits ++ "-_") 6 4 with givesPart := true }

def base32 : Radix := ofSigns (upper ++ "234567") 5 8

def base32hex : Radix := ofSigns (digits ++ "ABCDEFGHIJKLMNOPQRSTUV") 5 8

def base16 : Radix := { ofSigns (digits ++ "ABCDEF") 4 2 with filler := none }

def base2 : Radix := { ofSigns "01" 1 8 with filler := none }

def base2low : Radix := { base2 with lowFirst := true }

def hexLow : Radix := { ofSigns "0123456789abcdef" 4 2 with filler := none }

variable (r : Radix)

/-- the bits of an octet or of a sign, in the order that they are written in -/
def bitsOf (count n : Nat) : List Bool :=
  let low := (List.range count).map fun i => n.testBit i
  if r.lowFirst then low else low.reverse

def ofBits (bs : List Bool) : Nat :=
  let bs := if r.lowFirst then bs.reverse else bs
  bs.foldl (fun n b => 2 * n + b.toNat) 0

/-- pieces of a list, of which the last one may be short -/
def pieces {α : Type} (size : Nat) : Nat → List α → List (List α)
  | 0, _ => []
  | _, [] => []
  | fuel + 1, xs => xs.take size :: pieces size fuel (xs.drop size)

/-- the signs for octets that make one group -/
def encodeGroup (bs : Bytes) : Bytes :=
  let bits := bs.flatMap fun b => r.bitsOf 8 b.toNat
  let shown := (pieces r.bits bits.length bits).map fun piece =>
    r.signs.getD (r.ofBits (piece ++ List.replicate (r.bits - piece.length) false)) 0
  match r.filler with
  | some filler => shown ++ List.replicate (r.group - shown.length) filler
  | none => shown

/-- how many octets a group stands for -/
def groupOctets : Nat := r.group * r.bits / 8

def encode (bs : Bytes) : Bytes := (pieces r.groupOctets bs.length bs).flatMap r.encodeGroup

def isSign (b : UInt8) : Bool := r.signs.contains b

/-- the octets of a group, and whether it is one -/
def decodeGroup (group : Bytes) : Bytes × Bool :=
  let (shown, rest) := group.span r.isSign
  let count := shown.length * r.bits / 8
  let isPart : Bool := 0 < count &&
    (shown.length * r.bits - 8 * count) < r.bits && rest.all fun b => some b = r.filler
  let isWhole : Bool := group.length = r.group
  let bits := (shown.filterMap fun b => r.signs.idxOf? b).flatMap (r.bitsOf r.bits)
  let octets := (pieces 8 bits.length (bits.take (8 * count))).map fun piece =>
    (r.ofBits piece).toUInt8
  (if isWhole || r.givesPart then octets else [], isWhole && isPart)

def decodeFrom : List Bytes → Bytes × Bool
  | [] => ([], true)
  | group :: rest =>
    match r.decodeGroup group with
    | (octets, true) =>
      let (more, isWhole) := decodeFrom rest
      (octets ++ more, isWhole)
    | failed => failed

/-- the octets that signs stand for, up to the first group that is none, and whether all are -/
def decode (bs : Bytes) : Bytes × Bool := r.decodeFrom (pieces r.group bs.length bs)

end Radix
end JarLauncher.Text
