import JarLauncher.Utf8

/-! An order of names that hold numbers: runs of digits go by what they count, and a suffix such as
`.tar.gz` counts only between names that are the same without. -/

namespace JarLauncher.Text.Version

def isDigit (b : UInt8) : Bool := 48 ≤ b && b ≤ 57

def isLetter (b : UInt8) : Bool := (97 ≤ b && b ≤ 122) || (65 ≤ b && b ≤ 90)

/-- where an octet stands that is no digit: a tilde first, then the end, then digits, letters and
all others -/
def rank : Bytes → Int
  | [] => -1
  | b :: _ =>
    if isDigit b then 0
    else if isLetter b then b.toNat
    else if b = 126 then -2
    else b.toNat + 256

/-- two texts up to where both have digits, or the order of what differs before -/
def skipText : Nat → Bytes → Bytes → Except Ordering (Bytes × Bytes)
  | 0, a, b => .ok (a, b)
  | fuel + 1, a, b =>
    if a.head?.any (!isDigit ·) || b.head?.any (!isDigit ·) then
      if rank a ≠ rank b then .error (compare (rank a) (rank b))
      else skipText fuel (a.drop 1) (b.drop 1)
    else .ok (a, b)

def compareParts : Nat → Bytes → Bytes → Ordering
  | 0, _, _ => .eq
  | fuel + 1, a, b =>
    if a = [] ∧ b = [] then .eq
    else match skipText (a.length + b.length + 1) a b with
      | .error o => o
      | .ok (a, b) =>
        let (m, a) := (a.dropWhile (· = 48)).span isDigit
        let (n, b) := (b.dropWhile (· = 48)).span isDigit
        match compare m.length n.length with
        | .eq =>
          let value (ds : Bytes) : Nat := ds.foldl (fun n d => n * 10 + d.toNat) 0
          match compare (value m) (value n) with
          | .eq => compareParts fuel a b
          | o => o
        | o => o

def compareAll (a b : Bytes) : Ordering := compareParts (a.length + b.length + 1) a b

/-- the octets of a suffix: a dot with a letter behind it, and letters and digits after that -/
def isSuffix : Nat → Bytes → Bool
  | 0, _ => true
  | _, [] => true
  | fuel + 1, 46 :: b :: rest =>
    (isLetter b || b == 126) &&
      isSuffix fuel (rest.dropWhile fun b => isLetter b || isDigit b || b == 126)
  | _, _ => false

/-- a name without its suffix, of which at least one octet is left -/
def stem (bs : Bytes) : Bytes :=
  let cut := (List.range bs.length).find? fun i => 0 < i && isSuffix bs.length (bs.drop i)
  match cut with
  | some i => bs.take i
  | none => bs

def special (bs : Bytes) : Nat :=
  if bs = [46] then 0 else if bs = [46, 46] then 1 else if bs.head? = some 46 then 2 else 3

def compareNames (a b : Bytes) : Ordering :=
  match a, b with
  | [], [] => .eq
  | [], _ => .lt
  | _, [] => .gt
  | _, _ =>
    match compare (special a) (special b) with
    | .eq =>
      match compareAll (stem a) (stem b) with
      | .eq => compareAll a b
      | o => o
    | o => o

end JarLauncher.Text.Version
