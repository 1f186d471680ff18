import JarLauncher.Digest.Block

/-! The secure hash algorithms. The first one has constants of its own; those of the later ones are
the fractions of square and cube roots of prime numbers. -/

namespace JarLauncher.Digest

namespace Sha1

abbrev Word := BitVec 32

structure State where
  a : Word
  b : Word
  c : Word
  d : Word
  e : Word

def start : State := ⟨0x67452301, 0xefcdab89, 0x98badcfe, 0x10325476, 0xc3d2e1f0⟩

/-- the words of a block, and more that are made of them -/
def schedule (block : ByteArray) : Array Word :=
  (List.range 64).foldl (fun ws i =>
    let w (back : Nat) : Word := ws.getD (i + 16 - back) 0
    ws.push ((w 3 ^^^ w 8 ^^^ w 14 ^^^ w 16).rotateLeft 1)) (words .highFirst 32 block)

def step (ws : Array Word) (s : State) (i : Nat) : State :=
  let (f, constant) : Word × Word := match i / 20 with
    | 0 => (s.b &&& s.c ||| ~~~s.b &&& s.d, 0x5a827999)
    | 1 => (s.b ^^^ s.c ^^^ s.d, 0x6ed9eba1)
    | 2 => (s.b &&& s.c ||| s.b &&& s.d ||| s.c &&& s.d, 0x8f1bbcdc)
    | _ => (s.b ^^^ s.c ^^^ s.d, 0xca62c1d6)
  ⟨s.a.rotateLeft 5 + f + s.e + constant + ws.getD i 0, s.a, s.b.rotateLeft 30, s.c, s.d⟩

def add (s : State) (block : ByteArray) : State :=
  let t := (List.range 80).foldl (step (schedule block)) s
  ⟨s.a + t.a, s.b + t.b, s.c + t.c, s.d + t.d, s.e + t.e⟩

def digest (message : ByteArray) : Bytes :=
  let s := (filledBlocks .highFirst 64 8 message).foldl add start
  ofWords .highFirst [s.a, s.b, s.c, s.d, s.e]

end Sha1

namespace Sha2

def isPrime (n : Nat) : Bool := 2 ≤ n && (List.range n).all fun d => d < 2 || n % d ≠ 0

/-- as many prime numbers as a digest has rounds at most -/
def primes : List Nat := (List.range 410).filter isPrime

/-- the greatest number below `high` whose power is at most `n`, and which is at least `low` -/
def rootFrom (degree n : Nat) : Nat → Nat → Nat → Nat
  | 0, low, _ => low
  | fuel + 1, low, high =>
    let middle := (low + high) / 2
    if high ≤ low + 1 then low
    else if Nat.pow middle degree ≤ n then rootFrom degree n fuel middle high
    else rootFrom degree n fuel low middle

/-- the fraction of a root of a small number, in whole parts of a word -/
def rootFraction (degree width n : Nat) : BitVec width :=
  BitVec.ofNat width
    (rootFrom degree (n * Nat.pow 2 (degree * width)) (2 * width) 0 (Nat.pow 2 (width + 5)))

/-- what the algorithms with shorter and with longer words differ in -/
structure Family (width : Nat) where
  constants : Array (BitVec width)
  /-- how far words are turned, and in the last two how far one is shifted -/
  first : Nat × Nat × Nat
  second : Nat × Nat × Nat
  third : Nat × Nat × Nat
  fourth : Nat × Nat × Nat

def Family.rounds {width : Nat} (f : Family width) : Nat := f.constants.size

def short : Family 32 :=
  { constants := ((primes.take 64).map (rootFraction 3 32)).toArray
    first := (2, 13, 22)
    second := (6, 11, 25)
    third := (7, 18, 3)
    fourth := (17, 19, 10) }

def long : Family 64 :=
  { constants := ((primes.take 80).map (rootFraction 3 64)).toArray
    first := (28, 34, 39)
    second := (14, 18, 41)
    third := (1, 8, 7)
    fourth := (19, 61, 6) }

variable {width : Nat}

/-- a word turned in three ways -/
def turned (by_ : Nat × Nat × Nat) (w : BitVec width) : BitVec width :=
  w.rotateRight by_.1 ^^^ w.rotateRight by_.2.1 ^^^ w.rotateRight by_.2.2

/-- a word turned in two ways and shifted -/
def shifted (by_ : Nat × Nat × Nat) (w : BitVec width) : BitVec width :=
  w.rotateRight by_.1 ^^^ w.rotateRight by_.2.1 ^^^ w >>> by_.2.2

def schedule (f : Family width) (block : ByteArray) : Array (BitVec width) :=
  (List.range (f.rounds - 16)).foldl (fun ws i =>
    let w (back : Nat) : BitVec width := ws.getD (i + 16 - back) 0
    ws.push (shifted f.fourth (w 2) + w 7 + shifted f.third (w 15) + w 16))
    (words .highFirst width block)

structure State (width : Nat) where
  a : BitVec width
  b : BitVec width
  c : BitVec width
  d : BitVec width
  e : BitVec width
  f : BitVec width
  g : BitVec width
  h : BitVec width

def State.toList (s : State width) : List (BitVec width) :=
  [s.a, s.b, s.c, s.d, s.e, s.f, s.g, s.h]

def step (f : Family width) (ws : Array (BitVec width)) (s : State width) (i : Nat) :
    State width :=
  let choice := s.e &&& s.f ^^^ ~~~s.e &&& s.g
  let majority := s.a &&& s.b ^^^ s.a &&& s.c ^^^ s.b &&& s.c
  let sum := s.h + turned f.second s.e + choice + f.constants.getD i 0 + ws.getD i 0
  ⟨sum + turned f.first s.a + majority, s.a, s.b, s.c, s.d + sum, s.e, s.f, s.g⟩

def add (f : Family width) (s : State width) (block : ByteArray) : State width :=
  let t := (List.range f.rounds).foldl (step f (schedule f block)) s
  ⟨s.a + t.a, s.b + t.b, s.c + t.c, s.d + t.d, s.e + t.e, s.f + t.f, s.g + t.g, s.h + t.h⟩

/-- the fractions of the square roots of eight prime numbers -/
def startAt (width skipped : Nat) : State width :=
  let root (i : Nat) : BitVec width := rootFraction 2 width (primes.getD (skipped + i) 0)
  ⟨root 0, root 1, root 2, root 3, root 4, root 5, root 6, root 7⟩

/-- the low halves of the words of a state -/
def lowHalves (s : State 64) : State 32 :=
  let low (w : BitVec 64) : BitVec 32 := w.setWidth 32
  ⟨low s.a, low s.b, low s.c, low s.d, low s.e, low s.f, low s.g, low s.h⟩

/-- the first `size` octets of what becomes of a message -/
def digestFrom (f : Family width) (start : State width) (size : Nat) (message : ByteArray) :
    Bytes :=
  let s := (filledBlocks .highFirst (2 * width) (width / 4) message).foldl (add f) start
  (ofWords .highFirst s.toList).take size

def digest224 : ByteArray → Bytes := digestFrom short (lowHalves (startAt 64 8)) 28

def digest256 : ByteArray → Bytes := digestFrom short (startAt 32 0) 32

def digest384 : ByteArray → Bytes := digestFrom long (startAt 64 8) 48

def digest512 : ByteArray → Bytes := digestFrom long (startAt 64 0) 64

end Sha2
end JarLauncher.Digest
