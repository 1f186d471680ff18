import JarLauncher.Digest.Sha

/-! The digest SM3: blocks of sixteen words, from which more are made, are mixed into a state of
eight. -/

namespace JarLauncher.Digest.Sm3

abbrev Word := BitVec 32

abbrev State := Sha2.State 32

def start : State :=
  ⟨0x7380166f, 0x4914b2b9, 0x172442d7, 0xda8a0600, 0xa96f30bc, 0x163138aa, 0xe38dee4d, 0xb0fb0e4e⟩

/-- a word together with itself turned in two ways -/
def spread (m n : Nat) (w : Word) : Word := w ^^^ w.rotateLeft m ^^^ w.rotateLeft n

/-- the words of a block, and more that are made of them -/
def schedule (block : ByteArray) : Array Word :=
  (List.range 52).foldl (fun ws i =>
    let w (back : Nat) : Word := ws.getD (i + 16 - back) 0
    ws.push (spread 15 23 (w 16 ^^^ w 9 ^^^ (w 3).rotateLeft 15) ^^^ (w 13).rotateLeft 7 ^^^ w 6))
    (words .highFirst 32 block)

def step (ws : Array Word) (s : State) (i : Nat) : State :=
  let isEarly : Bool := i < 16
  let constant : Word := if isEarly then 0x79cc4519 else 0x7a879d8a
  let majority := if isEarly then s.a ^^^ s.b ^^^ s.c
    else s.a &&& s.b ||| s.a &&& s.c ||| s.b &&& s.c
  let choice := if isEarly then s.e ^^^ s.f ^^^ s.g else s.e &&& s.f ||| ~~~s.e &&& s.g
  let turned := s.a.rotateLeft 12
  let sum := (turned + s.e + constant.rotateLeft (i % 32)).rotateLeft 7
  let word := ws.getD i 0
  let first := majority + s.d + (sum ^^^ turned) + (word ^^^ ws.getD (i + 4) 0)
  let second := choice + s.h + sum + word
  ⟨first, s.a, s.b.rotateLeft 9, s.c, spread 9 17 second, s.e, s.f.rotateLeft 19, s.g⟩

def add (s : State) (block : ByteArray) : State :=
  let t := (List.range 64).foldl (step (schedule block)) s
  ⟨s.a ^^^ t.a, s.b ^^^ t.b, s.c ^^^ t.c, s.d ^^^ t.d, s.e ^^^ t.e, s.f ^^^ t.f, s.g ^^^ t.g,
    s.h ^^^ t.h⟩

def digest (message : ByteArray) : Bytes :=
  ofWords .highFirst ((filledBlocks .highFirst 64 8 message).foldl add start).toList

end JarLauncher.Digest.Sm3
