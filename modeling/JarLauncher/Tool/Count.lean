import JarLauncher.Text.Floating
import JarLauncher.Tool.Option

/-! Numbers among the arguments of tools: counts with a unit behind them, and times. -/

namespace JarLauncher.Tool

open Shell (text chr)

namespace Count

/-- the letters of units, each a power of the thousand -/
def powers : List Char := "KMGTPEZYRQ".toList

/-- what a letter alone multiplies by -/
def factor? : Char → Option Nat
  | 'b' => some 512
  | 'B' => some 1024
  | 'c' => some 1
  | 'w' => some 2
  | _ => none

/-- what a unit multiplies by, if its letter is among `units` -/
def unit? (units : String) (bs : Bytes) : Option Nat :=
  match bs.map chr with
  | [] => some 1
  | c :: rest =>
    if !units.toList.contains c then none
    else match factor? c, rest with
      | some n, [] => some n
      | some _, _ => none
      | none, rest => do
        let n := (← powers.findIdx? (· = c.toUpper)) + 1
        match rest with
        | [] | ['i', 'B'] => some (Nat.pow 1024 n)
        | ['B'] | ['D'] => some (Nat.pow 1000 n)
        | _ => none

/-- why a count cannot be read -/
inductive Fault where
  | meaningless
  | large
  deriving DecidableEq

/-- the units that most counts may have -/
def usualUnits : String := "bkKmMGTPEZYRQ"

/-- the digits in front, of another base behind `0x` or `0` if that is asked for -/
def digitsOf (based : Bool) (bs : Bytes) : Option Nat × Bytes :=
  let plain (bs : Bytes) : Option Nat × Bytes :=
    let (digits, rest) := bs.span Shell.isDigit
    (if digits = [] then none else some (Shell.natOf digits), rest)
  let inBase (base : Nat) (bs : Bytes) : Nat × Bytes :=
    let isDigit (b : UInt8) : Bool := (Text.Floating.hexDigit? b).any (· < base)
    let (digits, rest) := bs.span isDigit
    (digits.foldl (fun n b => n * base + (Text.Floating.hexDigit? b).getD 0) 0, rest)
  if !based then plain bs
  else match bs with
    | 48 :: x :: d :: rest =>
      if (x = 120 ∨ x = 88) ∧ (Text.Floating.hexDigit? d).isSome then
        (inBase 16 (d :: rest)).map some id
      else (inBase 8 bs).map some id
    | 48 :: _ => (inBase 8 bs).map some id
    | _ => plain bs

def isBlank (b : UInt8) : Bool := b == 32 || (9 ≤ b && b ≤ 13)

/-- A count with a unit behind it. A unit alone counts once. -/
def scaled (units : String) (bs : Bytes) (based : Bool := false) : Except Fault Nat :=
  let unsigned := match bs.dropWhile isBlank with
    | 43 :: rest => rest
    | rest => rest
  match digitsOf based unsigned with
  | (none, _) =>
    if bs = [] then .error .meaningless else ((unit? units bs).map .ok).getD (.error .meaningless)
  | (some n, rest) =>
    match unit? units rest with
    | none => .error .meaningless
    | some u => if 18446744073709551615 < n * u then .error .large else .ok (n * u)

/-- a time in microseconds: digits, a fraction and a unit -/
def micros? (bs : Bytes) : Option Nat :=
  let (whole, rest) := bs.span Shell.isDigit
  let (fraction, rest) := match rest with
    | 46 :: more => more.span Shell.isDigit
    | _ => ([], rest)
  let unit : Option Nat := match rest.map chr with
    | [] | ['s'] => some 1
    | ['m'] => some 60
    | ['h'] => some 3600
    | ['d'] => some 86400
    | _ => none
  if whole = [] ∧ fraction = [] then none
  else unit.map fun u =>
    (Shell.natOf (whole ++ fraction) * u * 1000000) / Nat.pow 10 fraction.length

/-- a whole number with blanks and a sign in front -/
def whole? (bs : Bytes) : Option Int :=
  match bs.dropWhile isBlank with
  | 45 :: digits => (Shell.natOf? digits).map fun n => -(n : Int)
  | 43 :: digits => (Shell.natOf? digits).map fun n => (n : Int)
  | digits => (Shell.natOf? digits).map fun n => (n : Int)

/-- the greatest number of a word without a sign, and of one with it -/
def greatest : Int := 18446744073709551615

def greatestSigned : Int := 9223372036854775807

def leastSigned : Int := -9223372036854775808

/-- numbers that are so far from zero are too large for their place, and others out of a range -/
def isLarge (n : Int) : Bool := 1073741823 < n || n < -1073741824

end Count

/-- A number in an argument, from `least` to `most`, or else the end of the tool. A sign in front is
not for numbers that cannot be less than zero. -/
def Work.numberIn (what : String) (least most : Int) (value : Bytes) : Work Int := do
  let refuse (why : Option Int) : Work Int :=
    Work.fail [text what, text ": ", Quoting.plain value, match why with
      | some e => text ": " ++ reason e
      | none => []]
  match Count.whole? value with
  | none => refuse none
  | some n =>
    if n < 0 ∧ 0 ≤ least then refuse none
    else if n < least ∨ most < n then
      refuse (some (if Count.isLarge n then Errno.overflow else Errno.outOfRange))
    else return n

/-- a count in an argument, with a unit of those in `units`, up to `most`, or else the end of the
tool -/
def Work.countIn (units : String) (what : String) (most : Int) (value : Bytes) : Work Nat := do
  let refuse (why : List Bytes) : Work Nat :=
    Work.fail (text what :: text ": " :: Quoting.plain value :: why)
  match Count.scaled units value with
  | .error .meaningless => refuse []
  | .error .large => refuse [text ": ", reason Errno.overflow]
  | .ok n =>
    if most < n then
      refuse [text ": ", reason (if Count.isLarge n then Errno.overflow else Errno.outOfRange)]
    else return n

end JarLauncher.Tool
