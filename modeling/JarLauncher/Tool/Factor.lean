import JarLauncher.Tool.Copy
import JarLauncher.Tool.Input
import JarLauncher.Tool.Sorting.Order

/-! Numbers as products of primes. Small factors are found by division, great ones by walks that
come around sooner modulo a factor than modulo the number. -/

namespace JarLauncher.Tool

open Unix
open Shell (text newline decimal)

namespace Factor

/-- a power modulo a number -/
def powerFrom (modulus : Nat) : Nat → Nat → Nat → Nat → Nat
  | 0, _, _, done => done
  | fuel + 1, base, exponent, done =>
    if exponent = 0 then done
    else
      let done := if exponent % 2 = 1 then done * base % modulus else done
      powerFrom modulus fuel (base * base % modulus) (exponent / 2) done

def power (modulus base exponent : Nat) : Nat :=
  powerFrom modulus (Nat.log2 exponent + 1) (base % modulus) exponent (1 % modulus)

/-- an odd part, and how often a number can be halved -/
def halve : Nat → Nat → Nat → Nat × Nat
  | 0, n, k => (n, k)
  | fuel + 1, n, k => if n % 2 = 0 then halve fuel (n / 2) (k + 1) else (n, k)

/-- squares of `x` before the last one, of which one is -1 -/
def reachesMinusOne (n : Nat) : Nat → Nat → Bool
  | 0, _ => false
  | k + 1, x => x = n - 1 || reachesMinusOne n k (x * x % n)

/-- the bases that tell primes from others -/
def bases : List Nat := [2, 3, 5, 7, 11, 13, 17, 19, 23, 29, 31, 37, 41]

/-- whether an odd number is prime, as far as the bases tell -/
def isPrime (n : Nat) : Bool :=
  if n < 2 then false
  else if bases.contains n then true
  else
    let (d, k) := halve (Nat.log2 n + 1) (n - 1) 0
    bases.all fun b =>
      let x := power n b d
      x = 1 || reachesMinusOne n k x

/-- a factor of a number that is not prime, by a walk from `x` and one that is twice as fast -/
def walk (n c : Nat) : Nat → Nat → Nat → Option Nat
  | 0, _, _ => none
  | fuel + 1, x, y =>
    let next (x : Nat) : Nat := (x * x + c) % n
    let x := next x
    let y := next (next y)
    let g := Nat.gcd (if x < y then y - x else x - y) n
    if g = 1 then walk n c fuel x y else if g = n then none else some g

def walks : Nat := 100

def steps : Nat := 100000000

/-- a factor of a number that is not prime -/
def factorOf (n : Nat) : Nat :=
  ((List.range walks).findSome? fun c => walk n (c + 1) steps 2 2).getD n

/-- the prime factors of a number without small ones -/
def greatFactors : Nat → Nat → List Nat
  | 0, n => [n]
  | fuel + 1, n =>
    if n = 1 then []
    else if isPrime n then [n]
    else
      let f := factorOf n
      if f = n then [n] else greatFactors fuel f ++ greatFactors fuel (n / f)

/-- up to where factors are found by division -/
def divisorLimit : Nat := 5000

/-- the small factors of a number, and what is left of it -/
def smallFactors : Nat → Nat → Nat → List Nat → List Nat × Nat
  | 0, n, _, found => (found.reverse, n)
  | fuel + 1, n, d, found =>
    if divisorLimit < d ∨ n < d then (found.reverse, n)
    else if n % d = 0 then smallFactors fuel (n / d) d (d :: found)
    else smallFactors fuel n (d + 1) found

def factors (n : Nat) : List Nat :=
  if n < 2 then []
  else
    let (small, rest) := smallFactors (divisorLimit + Nat.log2 n + 2) n 2 []
    small ++ (greatFactors (Nat.log2 n + 1) rest).mergeSort

/-- the number that a word says -/
def number? (bs : Bytes) : Option Nat :=
  let bs := bs.dropWhile fun b => b == 32
  Shell.natOf? (if bs.head? = some 43 then bs.drop 1 else bs)

/-- equal factors as powers -/
def powers : List Nat → List (Nat × Nat)
  | [] => []
  | p :: rest =>
    match powers rest with
    | (q, k) :: more => if p = q then (q, k + 1) :: more else (p, 1) :: (q, k) :: more
    | [] => [(p, 1)]

def shown (exponents : Bool) (n : Nat) : Bytes :=
  let parts := if exponents then (powers (factors n)).map fun (p, k) =>
      decimal p ++ if k = 1 then [] else 94 :: decimal k
    else (factors n).map decimal
  decimal n ++ 58 :: parts.flatMap (32 :: ·)

def put (exponents : Bool) (word : Bytes) : Work Unit := do
  match number? word with
  | some n => Work.putLine (shown exponents n)
  | none => Work.warn [Quoting.plain word, text " is not a valid positive integer"]

def isBetween (b : UInt8) : Bool := b == 32 || b == 9 || b == newline

end Factor

def factor : Routine := fun args => do
  let (on, operands) ← Work.flags { letters := "h", words := [flag "exponents" 'h'] } args
  let exponents := on.contains 'h'
  if operands.isEmpty then
    match ← Work.readAll 0 with
    | .error e => Work.fail [text "error reading input: ", reason e]
    | .ok data =>
      let words := Path.splitOn 32 (data.toList.map fun b => if Factor.isBetween b then 32 else b)
      (words.filter (· ≠ [])).forM (Factor.put exponents)
  else operands.forM (Factor.put exponents)

end JarLauncher.Tool
