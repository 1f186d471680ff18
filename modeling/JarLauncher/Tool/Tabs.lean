import JarLauncher.Tool.Input
import JarLauncher.Tool.Option

/-! Tabs turned into blanks, and blanks into tabs. -/

namespace JarLauncher.Tool

open Unix
open Shell (text newline chr)

namespace Tabs

/-- where tabs lead to -/
structure Stops where
  columns : List Nat := []
  /-- behind them: multiples of a number -/
  multiples : Option Nat := none
  /-- or steps from the last one -/
  steps : Option Nat := none

/-- the distance of stops that all have the same one -/
def Stops.single? (s : Stops) : Option Nat :=
  match s.columns, s.multiples <|> s.steps with
  | [], some n => some n
  | [], none => some 8
  | [n], none => some n
  | _, _ => none

/-- the stop behind a column, if there is one -/
def Stops.next? (s : Stops) (column : Nat) : Option Nat :=
  match s.single? with
  | some n => some (column + (n - column % n))
  | none =>
    match s.columns.find? (column < ·) with
    | some c => some c
    | none =>
      match s.multiples, s.steps with
      | some n, _ => some (column + (n - column % n))
      | none, some n => some (column + (n - (column - s.columns.getLastD 0) % n))
      | none, none => none

/-- one stop more, as it is written -/
def Stops.add (s : Stops) (bs : Bytes) : Work Stops := do
  let number (ds : Bytes) : Work Nat := do
    match ds.findIdx? fun b => !Shell.isDigit b with
    | some i =>
      Work.fail [text "tab size contains invalid character(s): ", Quoting.plain (ds.drop i)]
    | none =>
      let n := Shell.natOf ds
      if Nat.pow 2 64 ≤ n then Work.fail [text "tab stop is too large ", Quoting.plain ds]
      return n
  match bs with
  | [] | [47] | [43] => return s
  | 47 :: ds => return { s with multiples := some (← number ds) }
  | 43 :: ds => return { s with steps := some (← number ds) }
  | ds => return { s with columns := s.columns ++ [← number ds] }

def Stops.addAll (s : Stops) (bs : Bytes) : Work Stops := do
  let isBetween (b : UInt8) : Bool := b == 44 || b == 32 || b == 9
  let pieces := Path.splitOn 44 (bs.map fun b => if isBetween b then 44 else b)
  pieces.foldlM Stops.add s

def isAscending : List Nat → Bool
  | a :: b :: rest => a < b && isAscending (b :: rest)
  | _ => true

/-- stops lie behind each other -/
def Stops.check (s : Stops) : Work Unit := do
  if s.columns.contains 0 then Work.fail [text "tab size cannot be 0"]
  if !isAscending s.columns then Work.fail [text "tab sizes must be ascending"]
  if s.multiples.isSome && s.steps.isSome then
    Work.fail [text "'/' specifier is mutually exclusive with '+'"]

def Stops.checked (s : Stops) : Stops :=
  { s with multiples := s.multiples.filter (0 < ·), steps := s.steps.filter (0 < ·) }

structure Choice where
  stops : Stops := {}
  /-- all of a line is changed, not only the blanks at its start -/
  whole : Bool
  onlyStart : Bool := false

def isBlank (b : UInt8) : Bool := b == 32 || b == 9

/-- where in a line the work stands -/
structure Place where
  column : Nat := 0
  changes : Bool := true
  /-- blanks that are not yet written -/
  pending : Bytes := []
  /-- one of them stands right before a stop -/
  atStop : Bool := false
  afterBlank : Bool := true

def expandOctet (c : Choice) (p : Place) (b : UInt8) : Bytes × Place :=
  if b = newline then ([b], {})
  else if !p.changes then ([b], p)
  else if b = 9 then
    let column := (c.stops.next? p.column).getD (p.column + 1)
    (List.replicate (column - p.column) 32, { p with column := column })
  else
    let column := if b = 8 then p.column - 1 else p.column + 1
    ([b], { p with column := column, changes := c.whole || isBlank b })

/-- what is pending as it is written; a blank before a stop becomes part of a tab -/
def Place.held (p : Place) : Bytes :=
  if p.atStop && 1 < p.pending.length then 9 :: p.pending.drop 1 else p.pending

/-- write what is pending, and an octet -/
def release (c : Choice) (p : Place) (b : UInt8) (blank : Bool) (column : Nat) : Bytes × Place :=
  (p.held ++ [b], { p with
    column := column, pending := [], atStop := false, afterBlank := blank
    changes := c.whole || blank })

def unexpandOctet (c : Choice) (p : Place) (b : UInt8) : Bytes × Place :=
  if !p.changes then ([b], if b = newline then {} else p)
  else if b = newline then ((release c p b false 0).1, {})
  else if isBlank b then
    match c.stops.next? p.column with
    | none =>
      let (written, p) := release c p b true p.column
      (written, { p with changes := false })
    | some stop =>
      let column := if b = 9 then stop else p.column + 1
      if b = 9 ∨ p.afterBlank ∧ column = stop then
        -- the blanks before become part of the tab
        let pending : Bytes := if p.pending.isEmpty then [] else 9 :: p.pending.drop 1
        release c { p with pending := if p.atStop then pending.take 1 else [] } 9 true column
      else
        ([], { p with
          column := column, pending := p.pending ++ [b], afterBlank := true
          atStop := p.atStop || column = stop })
  else release c p b false (if b = 8 then p.column - 1 else p.column + 1)

def convert (f : Place → UInt8 → Bytes × Place) : Place → Bytes → List Bytes → List Bytes × Place
  | p, [], done => (done.reverse, p)
  | p, b :: rest, done =>
    let (written, p) := f p b
    convert f p rest (written :: done)

/-- an option that is a list of stops -/
def isList (arg : Bytes) : Bool :=
  match arg with
  | 45 :: b :: rest => Shell.isDigit b && rest.all fun b => Shell.isDigit b || b == 44
  | _ => false

def take (c : Choice) (g : Given) : Work Choice := do
  match g.letter with
  | 't' => return { c with stops := ← c.stops.addAll (g.value.getD []), whole := true }
  | 'i' => return { c with whole := false }
  | 'a' => return { c with whole := true }
  | _ => return { c with onlyStart := true }

/-- change all that the operands hold, as one text -/
def run (f : Choice → Place → UInt8 → Bytes × Place) (menu : Menu) (start : Choice) : Routine :=
    fun args => do
  let (options, rest) := args.span (· ≠ text "--")
  let (lists, options) := options.partition isList
  let stops ← (lists.map (List.drop 1)).foldlM Stops.addAll start.stops
  let (c, operands) ← Work.options menu (options ++ rest) { start with stops := stops } take
  c.stops.check
  let c := { c with stops := c.stops.checked, whole := c.whole && !c.onlyStart }
  let p ← Work.eachPieceOf operands { : Place } fun p piece => do
    let (written, after) := convert (f c) p piece.toList []
    written.forM Work.put
    return after
  Work.put p.held
  Work.closeInput operands "-"

end Tabs

def expand : Routine :=
  Tabs.run Tabs.expandOctet
    { letters := "it:", words := [flag "initial" 'i', valued "tabs" 't'] } { whole := true }

def unexpand : Routine :=
  Tabs.run Tabs.unexpandOctet
    { letters := "at:"
      words := [flag "all" 'a', flag "first-only" 'f', valued "tabs" 't'] } { whole := false }

end JarLauncher.Tool
