import JarLauncher.Tool.Copy
import JarLauncher.Tool.Input
import JarLauncher.Tool.Sorting.Order

/-! Two lists of lines in order side by side: which lines are in one, in the other or in both, and
lines put together that have a field in common. -/

namespace JarLauncher.Tool

open Unix
open Shell (text newline decimal)

/-- whether lists must be in order -/
inductive OrderCheck where
  /-- once a line was found that the other list lacks -/
  | usual
  | always
  | never
  deriving DecidableEq

/-- the two operands -/
def twoOperands (operands : List Bytes) : Work (Bytes × Bytes) := do
  match operands with
  | [] => Work.missingOperand
  | [x] => Work.misuse [text "missing operand after ", Quoting.plain x]
  | [x, y] => return (x, y)
  | _ :: _ :: extra :: _ => Work.extraOperand extra

namespace Joining

structure Choice where
  check : OrderCheck := .usual
  ending : UInt8 := newline

/-- a list that is gone through, line by line -/
structure Side where
  name : Bytes
  source : Source
  /-- the present line, and the one before it -/
  line : Option Bytes := none
  before : Option Bytes := none
  warned : Bool := false
  /-- the number of the present line -/
  number : Nat := 1

/-- read on; what cannot be read ends the tool -/
def Side.pull (s : Side) (ending : UInt8) : Work Side := do
  match ← s.source.line ending with
  | .error e => Work.fail [Quoting.name s.name, text ": ", reason e]
  | .ok (l, source) => return { s with source := source, line := l.map Source.Line.octets }

def Side.start (operand : Bytes) : Work Side := do
  match ← Work.openOperand operand with
  | .error e => Work.fail [Quoting.name operand, text ": ", reason e]
  | .ok fd => return { name := operand, source := { fd := fd } }

/-- Go on to the next line. Answers the lines to be looked at: the last one and the new one, or at
the end the last two. -/
def Side.next (s : Side) (ending : UInt8) : Work (Side × Option (Bytes × Bytes)) := do
  match s.line with
  | none => return (s, none)
  | some line =>
    let t ← s.pull ending
    let checked := match t.line with
      | some new => some (line, new)
      | none => s.before.map (·, line)
    return ({ t with before := some line, number := s.number + 1 }, checked)

/-- complain of two lines that are not in order, once for each list -/
def inspect (c : Choice) (unpaired : Bool) (compare : Bytes → Bytes → Ordering)
    (complaint : Nat → Bytes → List Bytes) (s : Side) (checked : Option (Bytes × Bytes)) :
    Work Side := do
  match checked with
  | none => return s
  | some (a, b) =>
    if c.check = .never || s.warned || (c.check = .usual && !unpaired) || compare a b ≠ .gt then
      return s
    if c.check = .always then Work.fail (complaint s.number b)
    Work.complain (complaint s.number b)
    return { s with warned := true }

/-- the complaint at the end if there was one about a list -/
def finish (a b : Side) : Work Unit := do
  if a.warned || b.warned then Work.fail [text "input is not in sorted order"]

end Joining

namespace Comm

structure Choice extends Joining.Choice where
  first : Bool := true
  second : Bool := true
  both : Bool := true
  separator : Bytes := [9]
  totals : Bool := false

def take (c : Choice) (g : Given) : Work Choice := do
  match g.letter with
  | '1' => return { c with first := false }
  | '2' => return { c with second := false }
  | '3' => return { c with both := false }
  | 'c' => return { c with check := .always }
  | 'n' => return { c with check := .never }
  | 'o' => return { c with separator := match g.value with
      | none | some [] => [0]
      | some bs => bs }
  | 't' => return { c with totals := true }
  | _ => return { c with ending := 0 }

/-- a line in its column; a column that is left out takes no room -/
def put (c : Choice) (column : Nat) (line : Bytes) : Work Unit := do
  let columns := [c.first, c.second, c.both]
  if columns.getD column false then
    let before := (columns.take column).filter fun shown => shown
    Work.put (before.flatMap (fun _ => c.separator) ++ line ++ [c.ending])

def complaint (file : Nat) (_ : Nat) (_ : Bytes) : List Bytes :=
  [text "file ", decimal file, text " is not in sorted order"]

/-- both lists as they are gone through; the counts are of the lines in each column -/
structure Merging where
  a : Joining.Side
  b : Joining.Side
  unpaired : Bool := false
  counts : Nat × Nat × Nat := (0, 0, 0)

/-- which list has the line that comes first -/
def Merging.order? (m : Merging) : Option Ordering :=
  match m.a.line, m.b.line with
  | none, none => none
  | none, _ => some .gt
  | _, none => some .lt
  | some x, some y => some (Sorting.compareOctets x y)

def Merging.step (c : Choice) (m : Merging) (order : Ordering) : Work Merging := do
  let unpaired := m.unpaired || order ≠ .eq
  let (n1, n2, n3) := m.counts
  let counts := match order with
    | .lt => (n1 + 1, n2, n3)
    | .gt => (n1, n2 + 1, n3)
    | .eq => (n1, n2, n3 + 1)
  match order with
  | .lt => put c 0 (m.a.line.getD [])
  | .gt => put c 1 (m.b.line.getD [])
  | .eq => put c 2 (m.b.line.getD [])
  let step (file : Nat) (s : Joining.Side) : Work Joining.Side := do
    let (s, checked) ← s.next c.ending
    Joining.inspect c.toChoice unpaired Sorting.compareOctets (complaint file) s checked
  let a ← if order = .gt then pure m.a else step 1 m.a
  let b ← if order = .lt then pure m.b else step 2 m.b
  return ⟨a, b, unpaired, counts⟩

def merge (c : Choice) (m : Merging) : Work Merging :=
  Work.loop m fun m => do
    match m.order? with
    | none => return .error m
    | some order => return .ok (← m.step c order)

end Comm

def comm : Routine := fun args => do
  let (c, operands) ← Work.options { letters := "123z", words := [flag "check-order" 'c',
    flag "nocheck-order" 'n', valued "output-delimiter" 'o', flag "total" 't',
    flag "zero-terminated" 'z'] } args { : Comm.Choice } Comm.take
  let (x, y) ← twoOperands operands
  let a ← Joining.Side.start x
  let b ← Joining.Side.start y
  let m ← Comm.merge c { a := ← a.pull c.ending, b := ← b.pull c.ending }
  let (n1, n2, n3) := m.counts
  if c.totals then
    Work.put (((([n1, n2, n3].map decimal) ++ [text "total"]).intersperse c.separator).flatten ++
      [c.ending])
  Joining.finish m.a m.b

namespace Join

/-- what a field of a result is -/
inductive Spec where
  /-- the field that lines have in common -/
  | common
  | field (file index : Nat)

structure Choice extends Joining.Choice where
  /-- the lines of a file are shown that have no partner -/
  unpaired1 : Bool := false
  unpaired2 : Bool := false
  paired : Bool := true
  filler : Option Bytes := none
  folds : Bool := false
  field1 : Option Nat := none
  field2 : Option Nat := none
  specs : List Spec := []
  automatic : Bool := false
  /-- what is between fields; blanks if it is nothing -/
  separator : Option UInt8 := none
  header : Bool := false

def fieldNumber (bs : Bytes) : Work Nat := do
  match Shell.natOf? bs with
  | some (n + 1) => return n
  | _ => Work.fail [text "invalid field number: ", Quoting.always bs]

def setField (old : Option Nat) (new : Nat) : Work (Option Nat) := do
  match old with
  | some n =>
    if n ≠ new then
      Work.fail [text "incompatible join fields ", decimal n, text ", ", decimal new]
  | none => pure ()
  return some new

def spec (bs : Bytes) : Work Spec := do
  let invalid : Work Spec := Work.fail [text "invalid field specifier: ", Quoting.always bs]
  let ofFile (file : Nat) (rest : Bytes) : Work Spec := do
    match rest with
    | 46 :: number => return .field file (← fieldNumber number)
    | _ => invalid
  match bs with
  | [48] => return .common
  | 48 :: _ => invalid
  | 49 :: rest => ofFile 1 rest
  | 50 :: rest => ofFile 2 rest
  | _ => Work.fail [text "invalid file number in field spec: ", Quoting.always bs]

def take (c : Choice) (g : Given) : Work Choice := do
  let value := g.value.getD []
  match g.letter with
  | 'a' | 'v' =>
    let c := if g.letter = 'v' then { c with paired := false } else c
    match value with
    | [49] => return { c with unpaired1 := true }
    | [50] => return { c with unpaired2 := true }
    | _ => Work.fail [text "invalid field number: ", Quoting.always value]
  | 'e' =>
    if c.filler.any (· ≠ value) then
      Work.fail [text "conflicting empty-field replacement strings"]
    return { c with filler := some value }
  | 'i' => return { c with folds := true }
  | '1' => return { c with field1 := ← setField c.field1 (← fieldNumber value) }
  | '2' => return { c with field2 := ← setField c.field2 (← fieldNumber value) }
  | 'j' =>
    let n ← fieldNumber value
    return { c with field1 := ← setField c.field1 n, field2 := ← setField c.field2 n }
  | 'o' =>
    if value = text "auto" then return { c with automatic := true }
    let isBetween (b : UInt8) : Bool := b == 44 || b == 32 || b == 9
    let pieces := (Path.splitOn 44 (value.map fun b => if isBetween b then 44 else b))
    return { c with specs := c.specs ++ (← pieces.mapM spec) }
  | 't' =>
    match value with
    | [] => return { c with separator := some newline }
    | [b] => return { c with separator := some b }
    | [92, 48] => return { c with separator := some 0 }
    | _ => Work.fail [text "multi-character tab ", Quoting.always value]
  | 'c' => return { c with check := .always }
  | 'n' => return { c with check := .never }
  | 'h' => return { c with header := true }
  | _ => return { c with ending := 0 }

def isBlank (b : UInt8) : Bool := b == 32 || b == 9 || b == newline

/-- the fields of a line between blanks; after blanks at its end there is one more -/
def blankFields : Nat → Bytes → List Bytes
  | 0, _ => []
  | fuel + 1, bs =>
    let (field, rest) := bs.span fun b => !isBlank b
    if rest = [] then [field] else field :: blankFields fuel (rest.dropWhile isBlank)

def fields (c : Choice) (line : Bytes) : List Bytes :=
  match c.separator with
  | none =>
    let line := line.dropWhile isBlank
    if line = [] then [] else blankFields (line.length + 1) line
  | some sep => if line = [] then [] else Path.splitOn sep line

def key (field : Option Nat) (fs : List Bytes) : Bytes := fs.getD (field.getD 0) []

def compareKeys (c : Choice) (a b : Bytes) : Ordering :=
  if c.folds then Sorting.compareOctets (a.map Sorting.upper) (b.map Sorting.upper)
  else Sorting.compareOctets a b

def outputSeparator (c : Choice) : Bytes :=
  match c.separator with
  | some sep => [sep]
  | none => [32]

/-- the fields of a line other than the one in common -/
def others (c : Choice) (field : Option Nat) (count : Option Nat) (fs : List Bytes) :
    List Bytes :=
  let fs := match count with
    | some n => fs.take n ++ List.replicate (n - fs.length) []
    | none => fs
  (fs.eraseIdx (field.getD 0)).map fun f => if f = [] then c.filler.getD [] else f

/-- show a pair of lines, or one without a partner -/
def put (c : Choice) (counts : Option Nat × Option Nat) (a b : Option (List Bytes)) :
    Work Unit := do
  let filled (f : Bytes) : Bytes := if f = [] then c.filler.getD [] else f
  let common := match a with
    | some fs => key c.field1 fs
    | none => key c.field2 (b.getD [])
  let shown := if c.specs.isEmpty then
      common :: (others c c.field1 counts.1 (a.getD []) ++ others c c.field2 counts.2 (b.getD []))
    else c.specs.map fun
      | .common => common
      | .field 1 i => (a.getD []).getD i []
      | .field _ i => (b.getD []).getD i []
  Work.put (((shown.map filled).intersperse (outputSeparator c)).flatten ++ [c.ending])

/-- lines with their fields -/
structure Sides where
  a : Joining.Side
  b : Joining.Side
  unpaired : Bool := false

/-- go on in one of the lists -/
def advance (c : Choice) (unpaired : Bool) (field : Option Nat) (s : Joining.Side) :
    Work Joining.Side := do
  let t ← s.pull c.ending
  let checked := match s.line, t.line with
    | some line, some new => some (line, new)
    | _, _ => none
  let t := { t with number := s.number + 1 }
  let complaint (n : Nat) (line : Bytes) : List Bytes :=
    [Quoting.name s.name, text ":", decimal n, text ": is not sorted: ", line]
  let compare (x y : Bytes) : Ordering :=
    compareKeys c (key field (fields c x)) (key field (fields c y))
  Joining.inspect c.toChoice unpaired compare complaint t checked

/-- the lines at the front with the same key; all of them are passed over -/
def group (c : Choice) (unpaired : Bool) (field : Option Nat) (wanted : Bytes)
    (s : Joining.Side) : Work (List (List Bytes) × Joining.Side) :=
  Work.loop ([], s) fun (found, s) => do
    match s.line with
    | some line =>
      let fs := fields c line
      if compareKeys c (key field fs) wanted = .eq then
        return .ok (fs :: found, ← advance c unpaired field s)
      else return .error (found.reverse, s)
    | none => return .error (found.reverse, s)

def merge (c : Choice) (counts : Option Nat × Option Nat) (s : Sides) : Work Sides :=
  Work.loop s fun s => do
    match s.a.line, s.b.line with
    | some line1, some line2 =>
      let fs1 := fields c line1
      let fs2 := fields c line2
      match compareKeys c (key c.field1 fs1) (key c.field2 fs2) with
      | .lt =>
        if c.unpaired1 then put c counts (some fs1) none
        return .ok { s with a := ← advance c s.unpaired c.field1 s.a, unpaired := true }
      | .gt =>
        if c.unpaired2 then put c counts none (some fs2)
        return .ok { s with b := ← advance c s.unpaired c.field2 s.b, unpaired := true }
      | .eq =>
        let (as, a) ← group c s.unpaired c.field1 (key c.field2 fs2) s.a
        let (bs, b) ← group c s.unpaired c.field2 (key c.field1 fs1) s.b
        if c.paired then
          for fs1 in as do
            for fs2 in bs do
              put c counts (some fs1) (some fs2)
        return .ok { s with a := a, b := b }
    | _, _ => return .error s

/-- what is left of one list when the other is at its end -/
def tail (c : Choice) (field : Option Nat) (shown unpaired : Bool)
    (put : List Bytes → Work Unit) (s : Joining.Side) : Work Joining.Side :=
  Work.loop s fun s => do
    match s.line with
    | none => return .error s
    | some line =>
      if shown then put (fields c line)
      if !shown && (c.check = .never || s.warned) then return .error s
      return .ok (← advance c unpaired field s)

end Join

def join : Routine := fun args => do
  let (c, operands) ← Work.options { letters := "a:e:i1:2:j:o:t:v:z", words :=
    [flag "ignore-case" 'i', flag "check-order" 'c', flag "nocheck-order" 'n', flag "header" 'h',
     flag "zero-terminated" 'z'] } args { : Join.Choice } Join.take
  let (x, y) ← twoOperands operands
  if x = Work.dash ∧ y = Work.dash then Work.fail [text "both files cannot be standard input"]
  let a ← (← Joining.Side.start x).pull c.ending
  let b ← (← Joining.Side.start y).pull c.ending
  let count (line : Option Bytes) : Option Nat :=
    if c.automatic then some ((line.map fun l => (Join.fields c l).length).getD 0) else none
  let counts := (count a.line, count b.line)
  let headers := c.header && (a.line.isSome || b.line.isSome)
  if headers then
    Join.put c counts (a.line.map (Join.fields c)) (b.line.map (Join.fields c))
  let start (s : Joining.Side) : Work Joining.Side := do
    if headers && s.line.isSome then return { (← s.pull c.ending) with number := 2 } else return s
  let s ← Join.merge c counts { a := ← start a, b := ← start b }
  let unpaired := s.unpaired || s.a.line.isSome || s.b.line.isSome
  let a ← Join.tail c c.field1 c.unpaired1 unpaired
    (fun fs => Join.put c counts (some fs) none) s.a
  let b ← Join.tail c c.field2 c.unpaired2 unpaired
    (fun fs => Join.put c counts none (some fs)) s.b
  Joining.finish a b

end JarLauncher.Tool
