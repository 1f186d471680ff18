import JarLauncher.Tool.Copy

/-! The first or the last part of inputs, in lines or in octets, counted from either end; and files
that are watched, so that what others add to them is passed on. -/

namespace JarLauncher.Tool

open Unix
open Shell (text newline)

/-- how much of its input a tool passes on -/
structure Extent where
  octets : Bool := false
  count : Nat := 10
  /-- counted from the other end: all but so many at the end, or from a place on -/
  other : Bool := false
  /-- names above the parts: always, never, or if there are several -/
  names : Option Bool := none
  /-- what ends a line -/
  ending : UInt8 := newline

namespace Extent

/-- where the first lines end, and the number of lines that are still to come -/
def afterLines (ending : UInt8) (data : ByteArray) (lines : Nat) : Nat × Nat :=
  data.foldl (fun (at_, stop, left) b =>
    if left = 0 then (at_, stop, left)
    else if b = ending then (at_ + 1, at_ + 1, left - 1)
    else (at_ + 1, at_ + 1, left)) (0, 0, lines) |>.2

/-- where the last lines start -/
def lastLines (ending : UInt8) (data : ByteArray) (lines : Nat) : Nat :=
  let ends := data.foldl (fun (at_, ends) b =>
    (at_ + 1, if b = ending ∧ at_ + 1 ≠ data.size then (at_ + 1) :: ends else ends)) (0, []) |>.2
  if lines = 0 then data.size else ends.getD (lines - 1) 0

/-- where the last part of a text starts -/
def lastPart (e : Extent) (data : ByteArray) : Nat :=
  if e.octets then data.size - e.count else lastLines e.ending data e.count

/-- where a part ends that counts from the start, and how much is still to come -/
def firstPart (e : Extent) (data : ByteArray) (left : Nat) : Nat × Nat :=
  if e.octets then (min left data.size, left - data.size) else afterLines e.ending data left

def unit (e : Extent) : String := if e.octets then "bytes" else "lines"

/-- the name of an operand above its part -/
def heading (several : Bool) (e : Extent) (first : Bool) (operand : Bytes) : Work Unit := do
  if e.names.getD several then
    let shown := if operand = Work.dash then text "standard input" else operand
    Work.put ((if first then [] else [newline]) ++ text "==> " ++ shown ++ text " <==\n")

end Extent

def unopened (operand : Bytes) (e : Int) : Work Unit :=
  Work.warn [text "cannot open ", Quoting.always operand, text " for reading: ", reason e]

def readFailed (operand : Bytes) (e : Int) : Work Unit :=
  Work.warn [text "error reading ", Quoting.always
    (if operand = Work.dash then text "standard input" else operand), text ": ", reason e]

/-- put back what was read beyond an octet, where that can be -/
def putBack (fd count : Nat) : Work Unit := Work.act (Act.modify fun p s =>
  match s.opened? p fd with
  | some (_, o) => (s.seek p fd (o.offset - count)).2
  | none => s)

/-- pass on all but the last part, which is held -/
def withoutLast (e : Extent) (operand : Bytes) (fd : Nat) : Work Unit := do
  let fault ← Work.loop ByteArray.empty fun held => do
    match ← Work.act (Act.read fd 8192) with
    | .error err => return .error (some err)
    | .ok piece =>
      if piece.isEmpty then return .error none
      let data := held ++ piece
      let stop := e.lastPart data
      Work.putPiece (data.extract 0 stop)
      return .ok (data.extract stop data.size)
  if let some err := fault then readFailed operand err

/-- pass on the first part, and put back what was read beyond it -/
def firstOnly (e : Extent) (operand : Bytes) (fd : Nat) : Work Unit :=
  Work.loop e.count fun left => do
    if left = 0 then return .error ()
    match ← Work.act (Act.read fd (if e.octets then min left 8192 else 8192)) with
    | .error err =>
      readFailed operand err
      return .error ()
    | .ok piece =>
      if piece.isEmpty then return .error ()
      let (stop, left) := e.firstPart piece left
      Work.putPiece (piece.extract 0 stop)
      if stop < piece.size then putBack fd (piece.size - stop)
      return .ok left

namespace Head

def words : List LongName :=
  [valued "bytes" 'c', valued "lines" 'n', flag "-presume-input-pipe" '-', flag "quiet" 'q',
   flag "silent" 'q', flag "verbose" 'v', flag "zero-terminated" 'z']

/-- a count, before which a sign turns it round -/
def setCount (e : Extent) (octets : Bool) (value : Bytes) : Work Extent := do
  let (other, digits) := match value with
    | 45 :: rest => (true, rest)
    | _ => (false, value)
  let e := { e with octets := octets, other := other }
  let count ← Work.countIn Count.usualUnits ("invalid number of " ++ e.unit) Count.greatest digits
  return { e with count := count }

def take (e : Extent) (g : Given) : Work Extent := do
  let value := g.value.getD []
  match g.letter with
  | 'c' => setCount e true value
  | 'n' => setCount e false value
  | 'q' => return { e with names := some false }
  | 'v' => return { e with names := some true }
  | 'z' => return { e with ending := 0 }
  | '-' => return e
  | c => Work.misuse [text "invalid trailing option -- ", text (String.ofList [c])]

/-- an option of digits in front, as in `-5` or `-20c` -/
def older? (arg : Bytes) : Option (Bytes × Bytes) :=
  match arg with
  | 45 :: b :: rest =>
    if Shell.isDigit b then some ((b :: rest).span Shell.isDigit) else none
  | _ => none

/-- what the letters behind the digits ask for: a unit, and names or not -/
def takeOlder (digits letters : Bytes) : Work Extent := do
  let (e, unit) ← letters.foldlM (fun ((e, unit) : Extent × Bytes) b => match Shell.chr b with
    | 'c' => return ({ e with octets := true }, [])
    | 'b' | 'k' | 'm' => return ({ e with octets := true }, [b])
    | 'l' => return ({ e with octets := false }, unit)
    | 'q' => return ({ e with names := some false }, unit)
    | 'v' => return ({ e with names := some true }, unit)
    | 'z' => return ({ e with ending := 0 }, unit)
    | _ => Work.misuse [text "invalid trailing option -- ", [b]]) (({}, []) : Extent × Bytes)
  let count ← Work.countIn Count.usualUnits ("invalid number of " ++ e.unit) Count.greatest
    (digits ++ unit)
  return { e with count := count }

end Head

def head : Routine := fun args => do
  let (start, args) ← match args with
    | arg :: rest =>
      match Head.older? arg with
      | some (digits, letters) => pure (← Head.takeOlder digits letters, rest)
      | none => pure ({ : Extent }, args)
    | [] => pure ({ : Extent }, args)
  let (e, operands) ←
    Work.options { letters := "c:n:qvz0123456789", words := Head.words } args start
    Head.take
  let operands := Work.orInput operands
  let mut first := true
  for x in operands do
    match ← Work.openOperand x with
    | .error err => unopened x err
    | .ok fd =>
      e.heading (1 < operands.length) first x
      first := false
      if e.other then withoutLast e x fd else firstOnly e x fd
      Work.closeOperand x fd
  Work.closeInput operands "-"

namespace Tail

/-- what is watched: what was opened, or what has the name -/
inductive Watched where
  | opened
  | named
  deriving DecidableEq

structure Choice extends Extent where
  watched : Option Watched := none
  /-- names that cannot be opened are tried again -/
  retries : Bool := false
  /-- a process whose end ends the watch -/
  until_ : Option Nat := none
  /-- how long to wait between two looks, in microseconds -/
  pause : Nat := 1000000

def menu : Menu :=
  { letters := "c:n:fFqs:vz0123456789"
    words := [valued "bytes" 'c', ⟨"follow", .optional, 'f'⟩, valued "lines" 'n',
      valued "max-unchanged-stats" 'u', flag "-disable-inotify" '-', valued "pid" 'p',
      flag "-presume-input-pipe" '-', flag "quiet" 'q', flag "retry" 'r', flag "silent" 'q',
      valued "sleep-interval" 's', flag "verbose" 'v', flag "zero-terminated" 'z'] }

/-- a count, before which a sign tells that it is counted from the start -/
def setCount (c : Choice) (octets : Bool) (value : Bytes) : Work Choice := do
  let digits := match value with
    | 45 :: rest => rest
    | _ => value
  let c := { c with octets := octets, other := c.other || value.head? = some 43 }
  let count ← Work.countIn Count.usualUnits ("invalid number of " ++ c.unit) Count.greatest digits
  return { c with count := count }

def take (c : Choice) (g : Given) : Work Choice := do
  let value := g.value.getD []
  match g.letter with
  | 'c' => setCount c true value
  | 'n' => setCount c false value
  | 'f' =>
    match g.value with
    | none => return { c with watched := some .opened }
    | some value =>
      let words := [("descriptor", Watched.opened), ("name", .named)]
      return { c with watched := some (← Work.choose "--follow" words value) }
  | 'F' => return { c with watched := some .named, retries := true }
  | 'r' => return { c with retries := true }
  | 'u' =>
    let what := "invalid maximum number of unchanged stats between opens"
    let _ ← Work.countIn "" what Count.greatest value
    return c
  | 'p' => return { c with until_ := some (← Work.countIn "" "invalid PID" 2147483647 value) }
  | 's' =>
    match if value.getLast?.any Shell.isNameStart then none else Count.micros? value with
    | some n => return { c with pause := n }
    | none => Work.fail [text "invalid number of seconds: ", Quoting.plain value]
  | 'q' => return { c with names := some false }
  | 'v' => return { c with names := some true }
  | 'z' => return { c with ending := 0 }
  | '-' => return c
  | d => Work.fail [text "option used in invalid context -- ", text (String.ofList [d])]

/-- an option of digits behind a sign, which stands alone or before one operand -/
def older? (args : List Bytes) : Option (Choice × List Bytes) := do
  let (arg, rest) ← match args with
    | [arg] | [arg, [45, 45]] => some (arg, [])
    | [arg, x] => if x = Work.dash ∨ x.head? ≠ some 45 then some (arg, [x]) else none
    | [arg, [45, 45], x] => some (arg, [x])
    | _ => none
  let (other, body) ← match arg with
    | 43 :: body => some (true, body)
    | 45 :: b :: body =>
      let isUnit : Bool := b = 98 || b = 108 || (b = 99 && body ≠ [])
      if Shell.isDigit b || isUnit then some (false, b :: body) else none
    | _ => none
  let (digits, letters) := body.span Shell.isDigit
  let watched (more : Bytes) : Option (Option Watched) := match more with
    | [] => some none
    | [102] => some (some .opened)
    | _ => none
  let of (octets : Bool) (count usual : Nat) (more : Bytes) : Option (Choice × List Bytes) := do
    let count := if digits = [] then usual else count
    return ({ octets := octets, count := count, other := other, watched := ← watched more }, rest)
  match letters with
  | 99 :: more => of true (Shell.natOf digits) 10 more
  | 98 :: more => of true (Shell.natOf digits * 512) 5120 more
  | 108 :: more => of false (Shell.natOf digits) 10 more
  | more => of false (Shell.natOf digits) 10 more

/-- pass on the rest of an input from a place on -/
def fromPlace (e : Extent) (operand : Bytes) (fd : Nat) : Work Unit := do
  let fault ← Work.loop (e.count - 1) fun left => do
    match ← Work.act (Act.read fd 8192) with
    | .error err => return .error (some err)
    | .ok piece =>
      if piece.isEmpty then return .error none
      let (start, left) := e.firstPart piece left
      Work.putPiece (piece.extract start piece.size)
      return .ok left
  if let some err := fault then readFailed operand err

def part (e : Extent) (operand : Bytes) (fd : Nat) : Work Unit := do
  if e.other then fromPlace e operand fd
  else match ← Work.readAll fd with
    | .error err => readFailed operand err
    | .ok data => Work.putPiece (data.extract (e.lastPart data) data.size)

/-- what of an open file is watched -/
structure Watch where
  name : Bytes
  fd : Nat

/-- it can grow: a file, but neither a directory nor a pipe, whose end comes by itself -/
def canGrow (fd : Nat) : Act Bool := Act.ask fun p s =>
  match s.opened? p fd with
  | some (_, o) => (s.tree.content o.node).isFile
  | none => false

/-- a file that was cut is read from its start -/
def restartCut (w : Watch) : Work Unit := do
  let isCut : Bool ← Work.act (Act.ask fun p s =>
    match s.opened? p w.fd with
    | some (_, o) => match s.tree.content o.node with
      | .file data => data.size < o.offset
      | _ => false
    | none => false)
  if isCut then
    Work.complain [w.name, text ": file truncated"]
    Work.act (Act.modify fun p s => (s.seek p w.fd 0).2)

/-- how often a watched file is looked at, in microseconds -/
def heartbeat : Nat := 20000

/-- Pass on what is added to the files, for ever or until a process has ended. -/
def watch (c : Choice) (several : Bool) (watches : List Watch) (last : Option Nat) : Work Unit :=
  Work.loop last fun last => do
    let mut last := last
    for w in watches do
      restartCut w
      match ← Work.readAll w.fd with
      | .error err => readFailed w.name err
      | .ok data =>
        if !data.isEmpty then
          if last ≠ some w.fd then c.heading several false w.name
          last := some w.fd
          Work.putPiece data
    Work.flush
    let isOver ← Work.act (Act.ask fun _ s => c.until_.any fun p => (s.process? p).isNone)
    if isOver then return .error ()
    Work.act (Act.sleep (if c.until_.isSome then min c.pause heartbeat else heartbeat))
    return .ok last

end Tail

def tail : Routine := fun args => do
  let (start, args) := (Tail.older? args).getD ({}, args)
  let (c, operands) ← Work.options Tail.menu args start Tail.take
  if c.retries then
    if c.watched = none then
      Work.complain [text "warning: --retry ignored; --retry is useful only when following"]
    else if c.watched = some .opened then
      Work.complain [text "warning: --retry only effective for the initial open"]
  if c.until_.isSome ∧ c.watched = none then
    Work.complain [text "warning: PID ignored; --pid=PID is useful only when following"]
  let operands := Work.orInput operands
  if operands.contains Work.dash ∧ c.watched = some .named then
    Work.fail [text "cannot follow ", Quoting.always Work.dash, text " by name"]
  if c.count = 0 ∧ c.watched = none ∧ !c.other then return
  let several := decide (1 < operands.length)
  let mut first := true
  let mut watches : List Tail.Watch := []
  let mut last : Option Nat := none
  for x in operands do
    match ← Work.openOperand x with
    | .error err => unopened x err
    | .ok fd =>
      c.heading several first x
      first := false
      Tail.part c.toExtent x fd
      last := some fd
      if c.watched.isSome then
        let isDirectory : Bool ← Work.act (Act.ask fun p s => match s.opened? p fd with
          | some (_, o) => s.tree.isDir o.node
          | none => false)
        if isDirectory then
          Work.warn [Quoting.name x, text ": cannot follow end of this type of file",
            text (if c.retries then "" else "; giving up on this name")]
        if ← Work.act (Tail.canGrow fd) then watches := watches ++ [⟨x, fd⟩]
      else Work.closeOperand x fd
  if c.watched.isSome then
    if watches.isEmpty then
      if (← get).status ≠ 0 then Work.complain [text "no files remaining"]
    else Tail.watch c several watches last
  Work.closeInput operands "-"

end JarLauncher.Tool
