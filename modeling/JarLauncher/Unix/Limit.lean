import JarLauncher.Errno

/-! Limits on what a process uses. They are handed down; those on the size of files, on descriptors
and on memory are felt, and of the others only note is taken. -/

namespace JarLauncher.Unix

/-- what holds, and what that may be raised to; none is no limit -/
structure Limit where
  soft : Option Nat
  hard : Option Nat
  deriving DecidableEq

namespace Limit

def unlimited : Limit := ⟨none, none⟩

/-- a limit is above another one, where there is none above no limit -/
def exceeds : Option Nat → Option Nat → Bool
  | _, none => false
  | none, some _ => true
  | some a, some b => b < a

/-- a change of a limit, or the number of what forbids it -/
def replace (old new : Limit) : Except Int Limit :=
  if exceeds new.soft new.hard then .error Errno.invalid
  else if exceeds new.hard old.hard then .error Errno.notPermitted
  else .ok new

end Limit

/-- the limits of a process by their letters; those that are not held are no limits -/
abbrev Limits := List (Char × Limit)

namespace Limits

def get (ls : Limits) (c : Char) : Limit := (ls.lookup c).getD Limit.unlimited

def set (ls : Limits) (c : Char) (l : Limit) : Limits := (c, l) :: ls.filter fun x => x.1 ≠ c

/-- how many of its unit a process may use -/
def soft (ls : Limits) (c : Char) : Option Nat := (ls.get c).soft

/-- the octets in the unit that the size of a file is limited in -/
def fileBlock : Nat := 512

/-- the size in octets that a process may let a file grow to -/
def fileSize (ls : Limits) : Option Nat := (ls.soft 'f').map (· * fileBlock)

/-- the numbers of descriptors are below this -/
def descriptors (ls : Limits) : Option Nat := ls.soft 'n'

/-- an amount reaches a limit -/
def reaches (amount : Nat) : Option Nat → Bool
  | none => false
  | some limit => limit ≤ amount

/-- what processes start with -/
def initial : Limits :=
  [('s', ⟨some 8192, none⟩), ('l', ⟨some 8192, some 8192⟩), ('n', ⟨some 1048576, some 1048576⟩),
   ('r', ⟨some 0, some 0⟩)]

end Limits
end JarLauncher.Unix
