import JarLauncher.Utf8

/-! Numbers in binary floating point with 53 digits, exactly: reading them from decimal and
hexadecimal notation, and writing them with a given number of digits. A half goes to the even
neighbour. -/

namespace JarLauncher.Text

inductive Magnitude where
  /-- `mantissa * 2 ^ exponent` -/
  | finite (mantissa : Nat) (exponent : Int)
  | infinite
  | notANumber
  deriving DecidableEq

structure Floating where
  negative : Bool
  magnitude : Magnitude
  deriving DecidableEq

namespace Floating

def zero : Floating := ⟨false, .finite 0 0⟩

/-- a quotient rounded to the nearest whole number, a half to the even one -/
def roundDiv (n d : Nat) : Nat :=
  let q := n / d
  let r := n % d
  if 2 * r < d then q
  else if d < 2 * r then q + 1
  else q + q % 2

/-- `n * 2 ^ e` as a quotient -/
def scaled (n : Nat) (e : Int) : Nat × Nat :=
  if 0 ≤ e then (n * Nat.pow 2 e.toNat, 1) else (n, Nat.pow 2 (-e).toNat)

/-- `n * b ^ e` as a quotient -/
def powered (n b : Nat) (e : Int) : Nat × Nat :=
  if 0 ≤ e then (n * Nat.pow b e.toNat, 1) else (n, Nat.pow b (-e).toNat)

def leastExponent : Int := -1074

/-- mantissas are below this, which is two to the 53rd -/
def mantissaBound : Nat := 9007199254740992

/-- the number nearest to a quotient -/
def ofQuotient (n d : Nat) : Magnitude :=
  if n = 0 then .finite 0 0
  else
    let guess : Int := (n.log2 : Int) - d.log2 - 53
    let e := max leastExponent guess
    let near (e : Int) : Nat :=
      let (a, b) := scaled 1 (-e)
      roundDiv (n * a) (d * b)
    let e := if mantissaBound ≤ near e then e + 1 else e
    let e := if mantissaBound < near e then e + 1 else e
    let m := near e
    if 971 < e ∨ (e = 971 ∧ mantissaBound ≤ m) then .infinite else .finite m e

def isDigit (b : UInt8) : Bool := 48 ≤ b && b ≤ 57

def hexDigit? (b : UInt8) : Option Nat :=
  if isDigit b then some (b.toNat - 48)
  else if 97 ≤ b && b ≤ 102 then some (b.toNat - 87)
  else if 65 ≤ b && b ≤ 70 then some (b.toNat - 55)
  else none

def lower (b : UInt8) : UInt8 := if 65 ≤ b && b ≤ 90 then b + 32 else b

/-- an exponent after its letter, and what follows; no digits make no exponent -/
def exponentFrom (letter : UInt8) (bs : Bytes) : Int × Bytes :=
  match bs with
  | b :: rest =>
    if lower b ≠ letter then (0, bs)
    else
      let (negative, digits) := match rest with
        | 45 :: more => (true, more)
        | 43 :: more => (false, more)
        | _ => (false, rest)
      let (ds, after) := digits.span isDigit
      if ds = [] then (0, bs)
      else
        let n : Nat := ds.foldl (fun n b => n * 10 + (b.toNat - 48)) 0
        let n : Int := min n 100000
        (if negative then -n else n, after)
  | [] => (0, [])

/-- digits with a point among them: their value without the point, how many stand after it, and what
follows them all; none if there is no digit -/
def digitsFrom (digit? : UInt8 → Option Nat) (base : Nat) (bs : Bytes) :
    Option (Nat × Nat × Bytes) :=
  let whole := bs.takeWhile fun b => (digit? b).isSome
  let rest := bs.drop whole.length
  let part := match rest with
    | 46 :: more => more.takeWhile fun b => (digit? b).isSome
    | _ => []
  let after := match rest with
    | 46 :: more => if whole = [] ∧ part = [] then rest else more.drop part.length
    | _ => rest
  if whole = [] ∧ part = [] then none
  else
    let n := (whole ++ part).foldl (fun n b => n * base + (digit? b).getD 0) 0
    some (n, part.length, after)

def startsWith (word : String) (bs : Bytes) : Bool :=
  (Utf8.encode word).isPrefixOf (bs.map lower)

/-- A quotient is tiny if it is below two to the -1022nd even when rounded to 53 digits. There are
fewer digits there, so that a tiny number may lose some. -/
def losesDigits (n d : Nat) : Bool :=
  n * Nat.pow 2 1076 < d * (2 * mantissaBound - 1) && n * Nat.pow 2 1074 % d ≠ 0

/-- a magnitude at the front of a text -/
structure Reading where
  magnitude : Magnitude
  /-- what was written is neither too great nor too small -/
  inRange : Bool
  rest : Bytes

namespace Reading

def ofQuotient (n d : Nat) (rest : Bytes) : Reading :=
  let m := Floating.ofQuotient n d
  ⟨m, m ≠ .infinite ∧ !losesDigits n d, rest⟩

/-- not a number, with what may stand in parentheses after it -/
def notANumber (bs : Bytes) : Reading :=
  let rest := match bs with
    | 40 :: inner =>
      match inner.dropWhile fun b => isDigit b || (97 ≤ lower b && lower b ≤ 122) || b == 95 with
      | 41 :: after => after
      | _ => bs
    | _ => bs
  ⟨.notANumber, true, rest⟩

/-- none if there is no number -/
def ofText? (bs : Bytes) : Option Reading :=
  if startsWith "infinity" bs then some ⟨.infinite, true, bs.drop 8⟩
  else if startsWith "inf" bs then some ⟨.infinite, true, bs.drop 3⟩
  else if startsWith "nan" bs then some (notANumber (bs.drop 3))
  else
    let hex := if startsWith "0x" bs then digitsFrom hexDigit? 16 (bs.drop 2) else none
    match hex with
    | some (n, places, rest) =>
      let (e, rest) := exponentFrom 112 rest
      let (a, b) := scaled n (if n = 0 then 0 else e - 4 * places)
      some (ofQuotient a b rest)
    | none =>
      (digitsFrom (fun b => if isDigit b then some (b.toNat - 48) else none) 10 bs).map
        fun (n, places, rest) =>
          let (e, rest) := exponentFrom 101 rest
          let (a, b) := powered n 10 (if n = 0 then 0 else e - places)
          ofQuotient a b rest

end Reading

/-- the number at the front of a text, white space and a sign before it -/
def scan? (bs : Bytes) : Option (Floating × Reading) :=
  let signed (negative : Bool) (bs : Bytes) : Option (Floating × Reading) :=
    (Reading.ofText? bs).map fun r => (⟨negative, r.magnitude⟩, r)
  match bs.dropWhile fun b => b == 32 || (9 ≤ b && b ≤ 13) with
  | 45 :: rest => signed true rest
  | 43 :: rest => signed false rest
  | rest => signed false rest

def digits (n : Nat) : Bytes := Utf8.encode (toString n)

/-- a number of digits after the point -/
def fixed (n d places : Nat) (point : Bool) : Bytes :=
  let all := digits (roundDiv (n * Nat.pow 10 places) d)
  let all := List.replicate (places + 1 - all.length) 48 ++ all
  let whole := all.take (all.length - places)
  whole ++ (if 0 < places ∨ point then [46] else []) ++ all.drop (all.length - places)

/-- the decimal exponent of a quotient that is not 0 -/
def decimalExponent (n d : Nat) : Int :=
  let guess : Int := (digits n).length - (digits d).length
  let (a, b) := powered 1 10 guess
  if n * b < d * a then guess - 1 else guess

/-- the digits of a quotient, one before the point and `places` after it, and its exponent -/
def significant (n d places : Nat) : Bytes × Int :=
  if n = 0 then (List.replicate (places + 1) 48, 0)
  else
    let e := decimalExponent n d
    let (a, b) := powered 1 10 (places - e)
    let all := digits (roundDiv (n * a) (d * b))
    if places + 1 < all.length then (all.dropLast, e + 1) else (all, e)

def exponentText (e : Int) : Bytes :=
  let ds := digits e.natAbs
  (if e < 0 then 45 else 43) :: (if ds.length < 2 then 48 :: ds else ds)

def scientific (ds : Bytes) (e : Int) (point : Bool) : Bytes :=
  let part := ds.drop 1
  ds.take 1 ++ (if part ≠ [] ∨ point then [46] else []) ++ part ++ 101 :: exponentText e

/-- zeros at the end of what follows a point, and the point if nothing follows it, left out -/
def trimmed (bs : Bytes) : Bytes :=
  if bs.contains 46 then
    let bs := (bs.reverse.dropWhile (· = 48))
    (if bs.head? = some 46 then bs.drop 1 else bs).reverse
  else bs

/-- the shorter of the two notations, by significant digits -/
def general (n d places : Nat) (alternate : Bool) : Bytes :=
  let p := max 1 places
  let (ds, e) := significant n d (p - 1)
  if -4 ≤ e ∧ e < p then
    let bs := fixed n d (p - 1 - e).toNat alternate
    if alternate then bs else trimmed bs
  else
    let ds := if alternate then ds else ds.take 1 ++ (trimmed (46 :: ds.drop 1)).drop 1
    scientific ds e alternate

def hexDigits (n : Nat) : Bytes := (Nat.toDigits 16 n).map fun c => c.toNat.toUInt8

/-- the least exponent of a number whose first binary digit is 1 -/
def leastNormal : Int := -1022

/-- hexadecimal notation, the first digit 1 unless the number is too small -/
def hexadecimal (mantissa : Nat) (exponent : Int) (places : Option Nat) (point : Bool) : Bytes :=
  let e : Int := if mantissa = 0 then 0 else max leastNormal (exponent + mantissa.log2)
  let (above, below) := scaled mantissa (exponent - e + 52)
  let n := above / below
  let n := match places with
    | some p => if p < 13 then roundDiv n (Nat.pow 16 (13 - p)) * Nat.pow 16 (13 - p) else n
    | none => n
  let part := hexDigits (n % (mantissaBound / 2))
  let part : Bytes := List.replicate (13 - part.length) 48 ++ part
  let part := match places with
    | some p => part.take p ++ List.replicate (p - 13) 48
    | none => (part.reverse.dropWhile (· = 48)).reverse
  let first := digits (n / (mantissaBound / 2))
  Utf8.encode "0x" ++ first ++ (if part ≠ [] ∨ point then [46] else []) ++ part ++ 112 ::
    (if e < 0 then 45 else 43) :: digits e.natAbs

/-- a magnitude as the letter of a format asks, in small letters -/
def write (m : Magnitude) (letter : Char) (places : Option Nat) (alternate : Bool) : Bytes :=
  match m with
  | .infinite => Utf8.encode "inf"
  | .notANumber => Utf8.encode "nan"
  | .finite mantissa exponent =>
    let (n, d) := scaled mantissa exponent
    let p := places.getD 6
    match letter with
    | 'f' => fixed n d p alternate
    | 'e' =>
      let (ds, e) := significant n d p
      scientific ds e alternate
    | 'g' => general n d p alternate
    | _ => hexadecimal mantissa exponent places alternate

def upper (b : UInt8) : UInt8 := if 97 ≤ b && b ≤ 122 then b - 32 else b

end Floating
end JarLauncher.Text
