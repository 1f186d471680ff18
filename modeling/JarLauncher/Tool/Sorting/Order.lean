import JarLauncher.Shell.Char
import JarLauncher.Text.Floating
import JarLauncher.Text.Version
import JarLauncher.Tool.Quoting

/-! Orders of pieces of lines: as octets, or as numbers of several kinds, months and versions. -/

namespace JarLauncher.Tool.Sorting

open Shell (text newline)

def isBlank (b : UInt8) : Bool := b == 32 || b == 9 || b == newline

/-- what pieces are compared as -/
inductive Kind where
  | octets
  | number
  /-- numbers with fractions and exponents -/
  | general
  /-- numbers with units -/
  | sized
  | month
  | version
  deriving DecidableEq

/-- how two pieces of lines are compared -/
structure Manner where
  kinds : List Kind := []
  shuffled : Bool := false
  reversed : Bool := false
  folds : Bool := false
  skipsBlanks : Bool := false
  skipsBlanksAtEnd : Bool := false
  onlyWords : Bool := false
  onlyPrintable : Bool := false
  deriving DecidableEq

def Manner.kind (m : Manner) : Kind := m.kinds.headD .octets

/-- a decimal number at the front, as a count of parts of the given size, and what is behind it -/
def numberOf (bs : Bytes) : Int × Nat × Bytes :=
  let bs := bs.dropWhile isBlank
  let (negative, bs) := match bs with
    | 45 :: rest => (true, rest)
    | _ => (false, bs)
  let (whole, rest) := bs.span Shell.isDigit
  let (fraction, rest) := match rest with
    | 46 :: more => more.span Shell.isDigit
    | _ => ([], rest)
  let n : Int := Shell.natOf (whole ++ fraction)
  (if negative then -n else n, fraction.length, rest)

def compareNumbers (a b : Bytes) : Ordering :=
  let (m, j, _) := numberOf a
  let (n, k, _) := numberOf b
  compare (m * Nat.pow 10 k) (n * Nat.pow 10 j)

/-- the power that a unit behind a number stands for, less than zero if the number is -/
def unitOf (bs : Bytes) : Int :=
  let (n, _, rest) := numberOf bs
  let power : Int := match rest with
    | 107 :: _ => 1
    | b :: _ => (((text "KMGTPEZYRQ").idxOf? b).map fun i => (i : Int) + 1).getD 0
    | [] => 0
  if n = 0 then 0 else if n < 0 then -power else power

def compareSized (a b : Bytes) : Ordering :=
  match compare (unitOf a) (unitOf b) with
  | .eq => compareNumbers a b
  | o => o

/-- where a number of any notation stands: what is none first, then what is not a number -/
def generalRank (bs : Bytes) : Nat × Int × Nat × Nat :=
  match Text.Floating.scan? bs with
  | none => (0, 0, 0, 1)
  | some (x, _) =>
    let sign : Int := if x.negative then -1 else 1
    match x.magnitude with
    | .notANumber => (1, 0, 0, 1)
    | .infinite => (if x.negative then 2 else 4, 0, 0, 1)
    | .finite m e =>
      let (n, d) := Text.Floating.scaled m e
      (3, sign, n, d)

def compareGeneral (a b : Bytes) : Ordering :=
  let (i, s, m, c) := generalRank a
  let (j, t, n, d) := generalRank b
  match compare i j with
  | .eq => compare (s * (m * d : Nat)) (t * (n * c : Nat))
  | o => o

def upper (b : UInt8) : UInt8 := if 97 ≤ b && b ≤ 122 then b - 32 else b

def monthNames : List Bytes :=
  ["JAN", "FEB", "MAR", "APR", "MAY", "JUN", "JUL", "AUG", "SEP", "OCT", "NOV", "DEC"].map text

/-- the number of a month; what is none comes first -/
def monthOf (bs : Bytes) : Nat :=
  let name := ((bs.dropWhile isBlank).take 3).map upper
  ((monthNames.idxOf? name).map (· + 1)).getD 0

def isAlphanumeric (b : UInt8) : Bool := Shell.isNameChar b && b != 95

def comparable (m : Manner) (bs : Bytes) : Bytes :=
  let bs := if m.onlyWords then bs.filter fun b => isAlphanumeric b || isBlank b else bs
  let bs := if m.onlyPrintable && !m.onlyWords then bs.filter Quoting.isPrintable else bs
  if m.folds then bs.map upper else bs

def compareOctets : Bytes → Bytes → Ordering
  | [], [] => .eq
  | [], _ => .lt
  | _, [] => .gt
  | a :: as, b :: bs => match compare a b with
    | .eq => compareOctets as bs
    | o => o

def compareBy (m : Manner) (a b : Bytes) : Ordering :=
  let a := comparable m a
  let b := comparable m b
  let o := match m.kind with
    | .octets => compareOctets a b
    | .number => compareNumbers a b
    | .general => compareGeneral a b
    | .sized => compareSized a b
    | .month => compare (monthOf a) (monthOf b)
    | .version => Text.Version.compareNames a b
  if m.reversed then o.swap else o

end JarLauncher.Tool.Sorting
