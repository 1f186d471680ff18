import JarLauncher.Tool.Copy
import JarLauncher.Tool.Input
import JarLauncher.Tool.Sorting.Key

/-! Lines that repeat the one before: shown once, counted, left out or set apart. -/

namespace JarLauncher.Tool

open Unix
open Shell (text newline)

/-- where an empty line sets groups apart -/
inductive Apart where
  | never
  | before
  | after
  | between
  | around
  deriving DecidableEq

/-- which lines `uniq` shows, and what it compares of them -/
structure Distinct where
  counts : Bool := false
  /-- show lines that stand alone, the first of others, and all later ones -/
  single : Bool := true
  repeated : Bool := true
  later : Bool := false
  /-- where repeated lines are set apart, and where all groups are -/
  apart : Apart := .never
  groups : Apart := .never
  folds : Bool := false
  fields : Nat := 0
  /-- the number of fields was given by digits alone -/
  isOlder : Bool := false
  skipped : Nat := 0
  width : Option Nat := none
  ending : UInt8 := newline
  /-- something was said about what is shown -/
  chooses : Bool := false

namespace Distinct

def compared (d : Distinct) (line : Bytes) : Bytes :=
  let rest := (Sorting.afterFields none d.fields line).drop d.skipped
  let rest := match d.width with
    | some w => rest.take w
    | none => rest
  if d.folds then rest.map Sorting.upper else rest

/-- the line of a run that is held back, and how many came before it -/
structure Run where
  line : Bytes
  count : Nat
  /-- no run of more than one line has ended -/
  isFirst : Bool

def show_ (d : Distinct) (line : Bytes) (isRepeated : Bool) (count : Nat) : Work Unit := do
  let wanted := if count = 0 then d.single else if isRepeated then d.later else d.repeated
  if wanted then
    Work.put ((if d.counts then column 7 (count + 1) ++ [32] else []) ++ line ++ [d.ending])

/-- go on by a line where lines are held back until it is known what follows -/
def next (d : Distinct) (held : Option Run) (line : Bytes) : Work (Option Run) := do
  match held with
  | none => return some ⟨line, 0, true⟩
  | some r =>
    let same := d.compared line = d.compared r.line
    let count := if same then r.count + 1 else r.count
    let isFirst := r.isFirst && (same || count = 0)
    if same ∧ count = 1 then
      if d.apart = .before || (d.apart = .between && !r.isFirst) then Work.put [d.ending]
    if !same || d.later then
      d.show_ r.line same count
      return some ⟨line, if same then count else 0, isFirst⟩
    return some { r with count := count }

/-- go on by a line where it can be shown at once -/
def nextAtOnce (d : Distinct) (last : Option Bytes) (line : Bytes) : Work (Option Bytes) := do
  let isNew := last.all fun x => d.compared x ≠ d.compared line
  if isNew then
    if d.groups = .before || d.groups = .around ||
        (last.isSome && (d.groups = .after || d.groups = .between)) then Work.put [d.ending]
  if isNew || d.groups ≠ .never then Work.put (line ++ [d.ending])
  return some (if isNew || d.groups ≠ .never then line else last.getD line)

def menu : Menu :=
  { letters := "0123456789cdDuif:s:w:z"
    words := [flag "count" 'c', flag "repeated" 'd', ⟨"all-repeated", .optional, 'D'⟩,
      ⟨"group", .optional, 'g'⟩, flag "ignore-case" 'i', flag "unique" 'u',
      valued "skip-fields" 'f',
      valued "skip-chars" 's', valued "check-chars" 'w', flag "zero-terminated" 'z'] }

def take (d : Distinct) (g : Given) : Work Distinct := do
  let count (what : String) : Work Nat :=
    match Count.whole? (g.value.getD []) with
    | some (.ofNat n) => return n
    | _ => Work.fail [g.value.getD [], text (": invalid number of " ++ what)]
  if g.letter.isDigit then
    let fields := if d.isOlder then d.fields else 0
    return { d with fields := fields * 10 + (g.letter.toNat - 48), isOlder := true }
  match g.letter with
  | 'c' => return { d with counts := true, chooses := true }
  | 'd' => return { d with single := false, chooses := true }
  | 'D' =>
    let apart ← match g.value with
      | none => pure Apart.never
      | some value =>
        let words := [("none", Apart.never), ("prepend", .before), ("separate", .between)]
        Work.choose "--all-repeated" words value
    return { d with single := false, later := true, apart := apart, chooses := true }
  | 'g' =>
    let groups ← match g.value with
      | none => pure Apart.between
      | some value =>
        let words := [("prepend", Apart.before), ("append", .after), ("separate", .between),
          ("both", .around)]
        Work.choose "--group" words value
    return { d with groups := groups }
  | 'u' => return { d with repeated := false, chooses := true }
  | 'i' => return { d with folds := true }
  | 'f' => return { d with fields := ← count "fields to skip", isOlder := false }
  | 's' => return { d with skipped := ← count "bytes to skip" }
  | 'w' => return { d with width := some (← count "bytes to compare") }
  | _ => return { d with ending := 0 }

end Distinct

def uniq : Routine := fun args => do
  let (d, operands) ← Work.options Distinct.menu args { : Distinct } Distinct.take
  if let some extra := operands[2]? then Work.extraOperand extra
  if d.groups ≠ .never && d.chooses then
    Work.misuse [text "--group is mutually exclusive with -c/-d/-D/-u"]
  if d.counts && d.later then
    Work.misuse [text "printing all duplicated lines and repeat counts is meaningless"]
  let operands := Work.orInput operands
  let x := operands.headD []
  match ← Work.openOperand x with
  | .error e => Work.fail [Quoting.name x, text ": ", reason e]
  | .ok fd =>
    if let some goal := operands[1]? then
      if goal ≠ Work.dash then
        match ← Work.act (Act.openPath goal Access.write) with
        | .error e => Work.fail [Quoting.name goal, text ": ", reason e]
        | .ok out =>
          let _ ← Work.act (Act.duplicate out 1 false)
    let source : Source := { fd := fd }
    let readFailed (e : Int) : Work Unit :=
      Work.fail [text "error reading ", Quoting.always x, text ": ", reason e]
    if d.single && d.repeated && !d.counts then
      let (last, fault, _) ← Work.eachLine source d.ending none fun last l =>
        return .ok (← d.nextAtOnce last l.octets)
      if let some e := fault then readFailed e
      if (d.groups = .after || d.groups = .around) && last.isSome then Work.put [d.ending]
    else
      let (held, fault, _) ← Work.eachLine source d.ending none fun held l =>
        return .ok (← d.next held l.octets)
      if let some e := fault then readFailed e
      if let some r := held then d.show_ r.line false r.count

end JarLauncher.Tool
