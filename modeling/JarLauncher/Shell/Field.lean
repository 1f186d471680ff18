import JarLauncher.Shell.Pattern

/-! What an expansion puts out, and how it is split into fields. Only what came from parameters,
commands and arithmetic is split, run by run; what stood in the word itself is not. -/

namespace JarLauncher.Shell

inductive Cell where
  | octet (b : UInt8) (escaped : Bool)
  /-- where quotes begin or end; it makes a field of no octets one all the same -/
  | mark
  deriving DecidableEq

inductive RunKind where
  /-- not split -/
  | fixed
  | split
  /-- arguments of their own, a NUL between each two -/
  | arguments
  deriving DecidableEq

structure Run where
  kind : RunKind
  /-- the last one first -/
  cells : List Cell

/-- the runs of an expansion, the last one first -/
abbrev Expanded := List Run

namespace Expanded

/-- one cell more that is not split -/
def push (e : Expanded) (c : Cell) : Expanded :=
  match e with
  | ⟨.fixed, cells⟩ :: rest => ⟨.fixed, c :: cells⟩ :: rest
  | e => ⟨.fixed, [c]⟩ :: e

/-- one run more; `cells` has its last cell first -/
def add (e : Expanded) (kind : RunKind) (cells : List Cell) : Expanded :=
  if kind = .fixed ∧ cells = [] then e else ⟨kind, cells⟩ :: e

/-- all cells, in order -/
def cells (e : Expanded) : List Cell := e.reverse.flatMap fun r => r.cells.reverse

end Expanded

/-- a field before it is matched against file names -/
abbrev Field := List Cell

namespace Cell

def octet? : Cell → Option UInt8
  | octet b _ => some b
  | mark => none

/-- octets that are all escaped or all not, the last one first -/
def ofBytes (bs : Bytes) (escaped : UInt8 → Bool) : List Cell :=
  bs.foldl (fun cells b => octet b (escaped b) :: cells) []

end Cell

namespace Field

/-- the octets of a field without its quotes -/
def text (f : Field) : Bytes := f.filterMap Cell.octet?

/-- how far a field was read as a pattern -/
structure Reading where
  /-- the octets of the pattern, the last one first -/
  pattern : Pattern
  /-- a backslash that came from an expansion stands before -/
  escaping : Bool
  inQuotes : Bool

def readCell (r : Reading) : Cell → Reading
  | .mark => { r with inQuotes := !r.inQuotes }
  | .octet b escaped =>
    if b = 92 ∧ !escaped then ⟨b :: r.pattern, !r.escaping, false⟩
    else if escaped then
      let guarded := if !r.escaping then 92 :: r.pattern
        else if r.inQuotes then 92 :: 92 :: r.pattern
        else r.pattern
      ⟨b :: guarded, false, r.inQuotes⟩
    else ⟨b :: r.pattern, false, r.inQuotes⟩

/-- The field as a pattern: octets that were quoted stand for themselves. -/
def pattern (f : Field) : Pattern := (f.foldl readCell ⟨[], false, false⟩).pattern.reverse

end Field

/-- a splitting as far as it has come -/
structure Splitting where
  /-- the last one first -/
  fields : List Field
  /-- the cells of the field that is open, the last one first -/
  current : List Cell
  /-- white space has just ended a field; a separator may follow it -/
  blank : Bool
  /-- the last run was one of arguments -/
  separate : Bool
  /-- how many fields may still be ended; none if any number -/
  limit : Option Nat
  /-- how many of the current cells are kept at the end, if not all -/
  cut : Option Nat

namespace Splitting

/-- the separators that count as white space -/
def isSpace (b : UInt8) : Bool := b == 32 || b == 9 || b == newline || b == 0

def start (limit : Option Nat) : Splitting := ⟨[], [], false, false, limit, none⟩

def close (s : Splitting) : Splitting :=
  { s with fields := s.current.reverse :: s.fields, current := [] }

/-- a cell that may end a field; `plain` if white space does not count as one separator here -/
def step (separators : Bytes) (plain : Bool) (s : Splitting) (c : Cell) : Splitting :=
  let b := c.octet?.getD 1
  let ends := b = 0 || separators.contains b
  let space := ends && isSpace b
  let keep (s : Splitting) : Splitting := { s with current := c :: s.current, blank := false }
  if s.limit = some 0 then
    if space then
      let cut := s.cut.getD s.current.length
      { s with current := c :: s.current, cut := cut }
    else keep { s with cut := if ends && s.blank then s.cut else none }
  else if s.blank && space then s
  else if s.blank && ends then { s with blank := false }
  else if !ends then keep s
  else
    let s := { s with blank := !plain && space }
    if s.current = [] ∧ s.blank then { s with blank := false }
    else match s.limit with
      | some 1 =>
        { s with limit := some 0, cut := some s.current.length, current := c :: s.current }
      | limit => { s.close with limit := limit.map (· - 1) }

def run (separators : Bytes) (s : Splitting) (r : Run) : Splitting :=
  match r.kind with
  | .fixed => { s with current := r.cells ++ s.current }
  | kind =>
    let separate := kind = .arguments
    let separators := if separate then [] else separators
    let plain := separate || s.separate
    r.cells.reverse.foldl (step separators plain) { s with separate := separate, blank := false }

/-- the fields, the one that is open ended -/
def finish (s : Splitting) : List Field :=
  let s := match s.cut with
    | some n => { s with current := s.current.drop (s.current.length - n) }
    | none => s
  if s.current = [] ∧ !s.separate then s.fields.reverse else s.close.fields.reverse

end Splitting

/-- the fields of an expansion; `limit` is how many there may be, the last one holding the rest -/
def Expanded.fields (e : Expanded) (separators : Bytes) (limit : Option Nat) : List Field :=
  (e.reverse.foldl (Splitting.run separators) (Splitting.start limit)).finish

end JarLauncher.Shell
