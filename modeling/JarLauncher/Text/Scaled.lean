/-! Sizes as people read them: in units of a power of the thousand, with one digit behind the point
if there is only one before it. What is cut off is rounded up. -/

namespace JarLauncher.Text

structure Scaled where
  /-- how many of one unit make the next -/
  base : Nat
  /-- the unit is chosen so that the number stays small -/
  isFree : Bool
  /-- the size of the unit if it is not chosen -/
  unit : Nat := 1
  /-- the unit is written behind the number -/
  isNamed : Bool := false
  /-- it is followed by a letter for octets -/
  octets : Bool := false

namespace Scaled

/-- plain numbers of a unit -/
def plain (unit : Nat) : Scaled := { base := 1024, isFree := false, unit := unit }

def human : Scaled := { base := 1024, isFree := true, isNamed := true }

def decimal : Scaled := { human with base := 1000 }

def letters : List Char := ['K', 'M', 'G', 'T', 'P', 'E', 'Z', 'Y', 'R', 'Q']

/-- the name of a unit -/
def name (s : Scaled) (power : Nat) : String :=
  let letter : String := match power with
    | 0 => ""
    | power + 1 =>
      let c := letters.getD power 'Q'
      String.ofList [if s.base = 1000 ∧ c = 'K' then 'k' else c]
  if !s.octets then letter
  else if s.base = 1024 ∧ power ≠ 0 then letter ++ "iB" else letter ++ "B"

/-- a quotient rounded up -/
def up (n d : Nat) : Nat := (n + d - 1) / d

/-- the number in the least unit that keeps it small, from a power on -/
def freely (s : Scaled) (n : Nat) : Nat → Nat → Nat → String
  | 0, power, unit => toString (up n unit) ++ s.name power
  | fuel + 1, power, unit =>
    if power = 0 ∧ n < s.base then toString n
    else if unit * s.base ≤ n ∧ power < letters.length then
      freely s n fuel (power + 1) (unit * s.base)
    else
      let tenths := up (n * 10) unit
      let whole := up n unit
      if tenths < 100 then
        toString (tenths / 10) ++ "." ++ toString (tenths % 10) ++ s.name power
      else if whole = s.base ∧ power < letters.length then "1.0" ++ s.name (power + 1)
      else toString whole ++ s.name power

/-- the power of the base that a unit is -/
def powerOf (s : Scaled) : Nat :=
  ((List.range (letters.length + 1)).find? fun p => s.unit ≤ Nat.pow s.base p).getD 0

/-- a number of octets -/
def shown (s : Scaled) (n : Nat) : String :=
  if s.isFree then s.freely n letters.length 0 1
  else toString (up n s.unit) ++ if s.isNamed then s.name s.powerOf else ""

end Scaled
end JarLauncher.Text
