import JarLauncher.Tool.Environment
import JarLauncher.Tool.Input
import JarLauncher.Tool.Timing

/-! Command lines made of what is read: arguments are gathered until there are enough of them, and
then a program is started with them. -/

namespace JarLauncher.Tool

open Unix
open Shell (text newline chr)

namespace Xargs

/-- what ends a command line -/
inductive Measure where
  /-- only its size -/
  | none
  | arguments (most : Nat)
  | lines (most : Nat)
  /-- each line stands for a mark in the arguments -/
  | mark (m : Bytes)
  deriving DecidableEq

structure Choice where
  /-- what ends each argument, if blanks and quotes mean nothing -/
  delimiter : Option UInt8 := none
  measure : Measure := .none
  /-- an argument that ends the input -/
  last : Option Bytes := none
  input : Option Bytes := none
  skipsEmpty : Bool := false
  tells : Bool := false
  asks : Bool := false
  terminal : Bool := false
  /-- a command line that is too large ends all -/
  exits : Bool := false
  room : Nat := 131072
  atOnce : Nat := 1
  slot : Option Bytes := none
  showsLimits : Bool := false

def menu : Menu :=
  { letters := "0a:E:e::i::I:l::L:n:prs:txP:d:o"
    words := [flag "null" '0', valued "arg-file" 'a', valued "delimiter" 'd',
      ⟨"eof", .optional, 'e'⟩,
      ⟨"replace", .optional, 'I'⟩, ⟨"max-lines", .optional, 'l'⟩, valued "max-args" 'n',
      flag "open-tty" 'o', flag "interactive" 'p', flag "no-run-if-empty" 'r',
      valued "max-chars" 's', flag "verbose" 't', flag "show-limits" 'S', flag "exit" 'x',
      valued "max-procs" 'P', valued "process-slot-var" '@', flag "version" '?', flag "help" '?']
    ordered := true }

/-- a number of an option that is at least `least`; one that is less counts as `least` if that is no
fault -/
def number (letter : Char) (least : Int) (isFault : Bool) (value : Bytes) : Work Nat := do
  let shown (c : Char) := text ("-" ++ String.ofList [c] ++ " option")
  match Count.whole? value with
  | none => Work.misuse [text "invalid number \"", value, text "\" for ", shown letter]
  | some n =>
    if least ≤ n then return n.toNat
    Work.complain [text "value ", value, text " for ", shown letter, text " should be >= ",
      text (toString least)]
    if isFault then Work.usage
    return least.toNat

/-- the sign that ends arguments: itself, or behind a backslash by a letter or a number -/
def delimiter (value : Bytes) : Work UInt8 := do
  let bad (more : List Bytes) : Work UInt8 :=
    Work.fail ([text "Invalid escape sequence ", value, text " in input delimiter specification"] ++
      more)
  let coded (base : Nat) (greatest : String) (digits : Bytes) : Work UInt8 := do
    let isDigit (b : UInt8) : Bool := (Text.Floating.hexDigit? b).any (· < base)
    let (ds, rest) := digits.span isDigit
    let n := ds.foldl (fun n b => n * base + (Text.Floating.hexDigit? b).getD 0) 0
    if 255 < n then
      bad [text ("; character values must not exceed " ++ greatest ++ ".")]
    else if rest ≠ [] then
      bad [text "; trailing characters ", rest, text " not recognised."]
    else return n.toUInt8
  match value with
  | [b] => return b
  | 92 :: c :: rest =>
    match chr c with
    | 'a' => return 7
    | 'b' => return 8
    | 'f' => return 12
    | 'n' => return 10
    | 'r' => return 13
    | 't' => return 9
    | 'v' => return 11
    | '\\' => return 92
    | 'x' => coded 16 "ff" rest
    | _ => if Shell.isDigit c then coded 8 "377" (c :: rest) else bad [text "."]
  | _ =>
    Work.fail [text "Invalid input delimiter specification ", value,
      text (": the delimiter must be either a single character or an escape sequence starting " ++
        "with \\.")]

/-- the greatest room for arguments beside the variables -/
def greatestRoom (env : List (Bytes × Bytes)) : Nat :=
  argumentRoom - 2048 - env.foldl (fun n e => n + e.1.length + e.2.length + 2) 0

def setMeasure (c : Choice) (m : Measure) (what : String) : Work Choice := do
  let was : Option String := match c.measure, m with
    | .none, _ => none
    | .arguments _, .arguments _ | .lines _, .lines _ | .mark _, .mark _ => none
    | .arguments _, _ => some "--max-args"
    | .lines _, _ => some "--max-lines"
    | .mark _, _ => some "--replace"
  if let some was := was then
    Work.complain [text ("warning: options " ++ was ++ " and " ++ what ++
      " are mutually exclusive, ignoring previous " ++ was ++ " value")]
  return { c with measure := m }

def take (c : Choice) (g : Given) : Work Choice := do
  let value := g.value.getD []
  match g.letter with
  | '0' => return { c with delimiter := some 0 }
  | 'd' => return { c with delimiter := some (← delimiter value) }
  | 'E' | 'e' => return { c with last := if value = [] then none else some value }
  | 'I' | 'i' => setMeasure c (.mark (g.value.getD (text "\x7b\x7d"))) "--replace/-I/-i"
  | 'L' => setMeasure c (.lines (← number 'L' 1 true value)) "-L"
  | 'l' =>
    let n ← if g.value = none then pure 1 else number 'l' 1 true value
    setMeasure c (.lines n) "--max-lines/-l"
  | 'n' =>
    let n ← number 'n' 1 true value
    match n, c.measure with
    | 1, .mark _ => return c
    | n, _ => setMeasure c (.arguments n) "--max-args/-n"
  | 's' =>
    let n ← number 's' 1 false value
    let most := greatestRoom (← get).env
    if most < n then
      Work.complain [text "value ", value, text " for -s option should be <= ", Shell.decimal most]
    return { c with room := min n most }
  | 'P' => return { c with atOnce := ← number 'P' 0 true value }
  | 'a' => return { c with input := some value }
  | 'r' => return { c with skipsEmpty := true }
  | 't' => return { c with tells := true }
  | 'p' => return { c with asks := true }
  | 'o' => return { c with terminal := true }
  | 'x' => return { c with exits := true }
  | 'S' => return { c with showsLimits := true }
  | '@' => return { c with slot := some value }
  | _ => throw 0

/-- where a reader is: between arguments, in one, in a quote of it or behind a backslash -/
inductive Mode where
  | between
  | inside
  | quoted (q : UInt8)
  | escaped

/-- a reader of arguments among octets -/
structure Reader where
  mode : Mode := .between
  /-- the argument that is read, its last octet first -/
  held : Bytes := []
  size : Nat := 0
  before : Option UInt8 := none
  /-- nothing of the line was an argument yet -/
  isFirst : Bool := true
  /-- there was a quote, so that an argument may be empty -/
  hasQuote : Bool := false

/-- what a reader comes upon -/
inductive Event where
  /-- an argument, whether it ends a line, and whether that line counts -/
  | argument (bs : Bytes) (endsLine counts : Bool)
  /-- the argument that ends the input -/
  | stop
  | unclosed (q : UInt8)

namespace Reader

/-- an argument ends where a zero stands in it -/
def octets (r : Reader) : Bytes := r.held.reverse.takeWhile (· ≠ 0)

def add (r : Reader) (b : UInt8) : Reader :=
  { r with mode := .inside, held := b :: r.held, size := r.size + 1 }

/-- the argument that is read, or the end if it is the one that ends the input -/
def finish (c : Choice) (r : Reader) (endsLine counts : Bool) : Event :=
  if c.last = some r.octets then .stop else .argument r.octets endsLine counts

/-- read an octet where blanks and quotes mean nothing -/
def feedPlain (d b : UInt8) (r : Reader) : Reader × Option Event :=
  if b = d then ({}, some (.argument r.octets true true)) else (r.add b, none)

/-- read an octet inside an argument, or at its start -/
def feedInside (c : Choice) (isMarked : Bool) (b : UInt8) (r : Reader) : Reader × Option Event :=
  if b = newline then
    let counts := r.before.all fun x => !Shell.isBlank x
    if r.held = [] ∧ !r.hasQuote then ({ r with mode := .between }, none)
    else ({}, some (r.finish c true counts))
  else if !isMarked ∧ Shell.isBlank b then
    ({ isFirst := false }, some (r.finish c false false))
  else if b = 92 then ({ r with mode := .escaped }, none)
  else if b = 39 ∨ b = 34 then ({ r with mode := .quoted b, hasQuote := true }, none)
  else (r.add b, none)

/-- read an octet -/
def feed (c : Choice) (isMarked : Bool) (b : UInt8) (r : Reader) : Reader × Option Event :=
  match c.delimiter with
  | some d => feedPlain d b r
  | none =>
    let (next, event) := match r.mode with
      | .between =>
        if Count.isBlank b then (r, none) else feedInside c isMarked b { r with mode := .inside }
      | .inside => feedInside c isMarked b r
      | .quoted q =>
        if b = newline then (r, some (.unclosed q))
        else if b = q then ({ r with mode := .inside }, none)
        else ({ r.add b with mode := .quoted q }, none)
      | .escaped => (r.add b, none)
    ({ next with before := some b }, event)

/-- the input has ended -/
def close (c : Choice) (r : Reader) : Option Event :=
  if r.held = [] then none
  else match r.mode with
    | .quoted q => some (.unclosed q)
    | _ =>
      if r.isFirst ∧ c.delimiter.isNone then some (r.finish c true true)
      else some (.argument r.octets true true)

end Reader

/-- command lines in the making -/
structure State where
  reader : Reader := {}
  /-- the arguments that were gathered, the last one first -/
  gathered : List Bytes := []
  /-- the room that the command line takes -/
  taken : Nat := 0
  lines : Nat := 0
  ran : Bool := false
  /-- the programs that run, each in its place -/
  running : List (Nat × Pid) := []
  /-- a program ended with a status that is a fault -/
  isBad : Bool := false
  warned : Bool := false

/-- a job: how lines are made, and the command in front of them -/
structure Job where
  choice : Choice
  command : List Bytes

/-- the room that arguments take -/
def sizeOf (args : List Bytes) : Nat := args.foldl (fun n a => n + a.length + 1) 0

/-- what is known of a program that has ended; some faults end all -/
def heed (j : Job) (s : State) (p : Pid) (e : Ending) : Work (Except (State × Nat) State) := do
  let s := { s with running := s.running.filter (·.2 ≠ p) }
  let name := j.command.headD []
  match e with
  | .exited 0 => return .ok s
  | .exited 255 =>
    Work.complain [name, text ": exited with status 255; aborting"]
    return .error (s, 124)
  | .exited _ => return .ok { s with isBad := true }
  | .killed signal =>
    Work.complain [name, text ": terminated by signal ", Shell.decimal signal]
    return .error (s, 125)

/-- wait until at most so many programs run -/
def await (j : Job) (most : Nat) (s : State) : Work (Except (State × Nat) State) :=
  Work.loop s fun s => do
    let isOurs (p : Pid) : Bool := s.running.any (·.2 = p)
    match ← Work.act (Act.wait isOurs false (most < s.running.length)) with
    | .news (.ended p e) =>
      match ← heed j s p e with
      | .ok s => return .ok s
      | .error end_ => return .error (.error end_)
    | .interrupted => return .ok s
    | _ => return .error (.ok s)

/-- the end: all programs are waited for, and a fault of theirs counts more than the status -/
def finish {α : Type} (j : Job) (s : State) (status : Nat) : Work α := do
  match ← await j 0 s with
  | .ok s => throw (if s.isBad then 123 else status)
  | .error (s, status) =>
    match ← await j 0 s with
    | .ok _ | .error _ => throw status

def fail {α : Type} (j : Job) (s : State) (words : List Bytes) : Work α := do
  Work.complain words
  finish j s 1

/-- what a program that cannot be started leaves -/
def refused (e : Int) (words : List Bytes) : Work Nat := do
  Work.complain words
  throw (Work.unstarted e)

/-- the work of a child: it becomes the program, and tells through a pipe if it cannot -/
def child (j : Job) (line : List Bytes) (slot : Nat) (fd : Nat) : Work Nat := do
  let c := j.choice
  if c.input.isNone ∨ c.terminal then
    Work.act (Act.close 0)
    let path := text (if c.terminal then "/dev/tty" else "/dev/null")
    if let .error e ← Work.act (Act.openPath path Access.read) then
      Work.complain [Quoting.always path, text ": ", reason e]
      throw 1
  let env := (← get).env
  let env := c.slot.elim env fun name => setVariable env name (Shell.decimal slot)
  let e ← Work.act (Act.execNamed (line.headD []) line env)
  let _ ← Work.act (Act.put fd (Shell.decimal e.natAbs))
  refused e [line.headD [], text ": ", reason e]

/-- start a program with its arguments; the state with it, or the status that it could not be
started with -/
def start (j : Job) (s : State) (line : List Bytes) : Work (Except Nat State) := do
  let slot := ((List.range (s.running.length + 1)).find? fun i =>
    !s.running.any (·.1 = i)).getD 0
  let ends ← Work.act Act.pipe
  match ends with
  | .error e => Work.fail [text "could not create pipe before fork: ", reason e]
  | .ok (readEnd, writeEnd) =>
    let held ← Work.act (Act.duplicateFrom writeEnd 10 true)
    Work.act (Act.close writeEnd)
    let fd := held.toOption.getD writeEnd
    let d ← get
    let p ← Work.act (Act.fork (child j line slot fd d fun (r, _) => .exit (match r with
      | .ok n => n
      | .error n => n)))
    Work.act (Act.close fd)
    let told ← Work.act (Act.read readEnd 8)
    Work.act (Act.close readEnd)
    if told.toOption.any fun bs => !bs.isEmpty then
      match ← Work.act (awaitUntilDue p) with
      | .ended e => return .error e.status
      | .overdue => return .error 126
    return .ok { s with running := s.running ++ [(slot, p)], ran := true }

def tell (line : List Bytes) : Work Unit :=
  Work.say [((line.map Quoting.name).intersperse [32]).flatten]

/-- run the command line that was made -/
def run (j : Job) (s : State) (line : List Bytes) : Work State := do
  let c := j.choice
  let s ← match ← (if c.atOnce = 0 then pure (.ok s) else await j (c.atOnce - 1) s) with
    | .ok s => pure s
    | .error (s, status) => finish j s status
  if c.asks then
    tell line
    match ← Work.act (Act.openPath (text "/dev/tty") Access.read) with
    | .ok _ => return s
    | .error e => fail j s [text "failed to open /dev/tty for reading: ", reason e]
  if c.tells then
    tell line
    Work.say [[newline]]
  match ← start j s line with
  | .ok s => return s
  | .error status => finish j s status

/-- run what was gathered, and gather anew -/
def runGathered (j : Job) (s : State) : Work State := do
  let s ← run j s (j.command ++ s.gathered.reverse)
  return { s with gathered := [], taken := sizeOf j.command }

/-- what was gathered is run before all ends, unless that could be wrong -/
def runIfPossible (j : Job) (s : State) : Work State := do
  let c := j.choice
  let isStrict : Bool := c.exits || match c.measure with
    | .mark _ | .lines _ => true
    | _ => false
  if isStrict ∨ s.gathered = [] then return s
  runGathered j s

def tooLong {α : Type} (j : Job) (s : State) : Work α := fail j s [text "argument list too long"]

/-- gather an argument -/
def gather (j : Job) (s : State) (bs : Bytes) : Work State := do
  let c := j.choice
  let isFull (s : State) : Bool := match c.measure with
    | .arguments most => s.gathered.length = most
    | _ => false
  let s ← if s.taken + bs.length + 1 ≤ c.room then pure s
    else if s.gathered = [] then
      fail j s [text "cannot fit single argument within argument list size limit"]
    else
      match c.measure with
      | .lines _ => tooLong j s
      | .arguments _ => if c.exits then tooLong j s else runGathered j s
      | _ => runGathered j s
  let s := { s with gathered := bs :: s.gathered, taken := s.taken + bs.length + 1 }
  if isFull s then runGathered j s else return s

/-- every place of a mark in a text replaced, as long as there is room -/
def replaced? (m value : Bytes) : Nat → Nat → Bytes → Option Bytes
  | 0, _, _ => none
  | _, _, [] => some []
  | fuel + 1, room, b :: rest =>
    if m.isPrefixOf (b :: rest) then
      if m = [] ∨ room ≤ value.length then none
      else
        (replaced? m value fuel (room - value.length) ((b :: rest).drop m.length)).map (value ++ ·)
    else if room ≤ 1 then none
    else (replaced? m value fuel (room - 1) rest).map (b :: ·)

/-- run a command line in which a text stands for the mark; not for the program itself -/
def runMarked (j : Job) (s : State) (m value : Bytes) : Work State := do
  let room := j.choice.room
  let mut line := j.command.take 1
  if room < sizeOf line then
    fail j s [text "cannot fit single argument within argument list size limit"]
  for x in j.command.drop 1 do
    match replaced? m value (x.length + 1) (room - 1) x with
    | none => fail j s [text "command too long"]
    | some x =>
      line := line ++ [x]
      if room < sizeOf line then tooLong j s
  run j s line

/-- do what an event asks for; an error is the end of the input -/
def handle (j : Job) (s : State) (e : Event) : Work (Except State State) := do
  let c := j.choice
  match e with
  | .stop => return .error s
  | .unclosed q =>
    let s ← runIfPossible j s
    fail j s [text ("unmatched " ++ (if q = 34 then "double" else "single") ++
      " quote; by default quotes are special to xargs unless you use the -0 option")]
  | .argument bs endsLine counts =>
    match c.measure with
    | .mark m => return .ok (← runMarked j s m bs)
    | measure =>
      let s ← gather j s bs
      if !endsLine then return .ok s
      let s := { s with lines := s.lines + if counts then 1 else 0 }
      match measure with
      | .lines most =>
        if most ≤ s.lines then return .ok { ← runGathered j s with lines := 0 }
        return .ok s
      | _ => return .ok s

/-- read a piece octet by octet -/
def feed (j : Job) (isMarked : Bool) (s : State) (piece : ByteArray) : Work (Except State State) :=
  let c := j.choice
  Work.loop (s, 0) fun (s, i) => do
    match piece[i]? with
    | none => return .error (.ok s)
    | some b =>
      let (reader, event) := s.reader.feed c isMarked b
      let s := { s with reader := reader }
      let s ← if b = 0 ∧ c.delimiter.isNone ∧ !s.warned then do
          Work.complain [text ("WARNING: a NUL character occurred in the input.  It cannot be " ++
            "passed through in the argument list.  Did you mean to use the --null option?")]
          pure { s with warned := true }
        else pure s
      if c.room ≤ reader.size + sizeOf (if isMarked then j.command.take 1 else j.command) then
        let s ← runIfPossible j s
        fail j s [text "argument line too long"]
      match event with
      | none => return .ok (s, i + 1)
      | some e =>
        match ← handle j s e with
        | .ok s => return .ok (s, i + 1)
        | .error s => return .error (.error s)

def showLimits (c : Choice) : Work Unit := do
  let env := (← get).env
  let size := env.foldl (fun n e => n + e.1.length + e.2.length + 2) 0
  let most := greatestRoom env
  Work.say [text "Your environment variables take up ", Shell.decimal size, text " bytes\n",
    text "POSIX upper limit on argument length (this system): ", Shell.decimal most,
    text "\nPOSIX smallest allowable upper limit on argument length (all systems): 4096\n",
    text "Maximum length of command we could actually use: ", Shell.decimal (most - size),
    text "\nSize of command buffer we are actually using: ", Shell.decimal c.room,
    text "\nMaximum parallelism (--max-procs must be no greater): 2147483647\n"]

end Xargs

def xargs : Routine := fun args => do
  let (c, command) ← Work.options Xargs.menu args { : Xargs.Choice } Xargs.take
  if c.last.isSome ∧ c.delimiter.isSome then
    Work.complain [text "warning: the -E option has no effect if -0 or -d is used.\n"]
  let fd ← match c.input with
    | none => pure 0
    | some x =>
      if x = Work.dash then pure 0
      else match ← Work.act (Act.openPath x Access.read) with
        | .ok fd => pure fd
        | .error e =>
          Work.fail [text "Cannot open input file ", Quoting.always x, text ": ", reason e]
  if c.showsLimits then Xargs.showLimits c
  let c := { c with input := if c.input = some Work.dash then none else c.input }
  let j : Xargs.Job := ⟨c, if command.isEmpty then [text "echo"] else command⟩
  let isMarked := match c.measure with
    | .mark _ => true
    | _ => false
  let s : Xargs.State := { taken := Xargs.sizeOf j.command }
  if !isMarked ∧ c.room < s.taken then
    Work.fail [text "cannot fit single argument within argument list size limit"]
  let s ← Work.loop s fun s => do
    let piece := (← Work.act (Act.read fd 4096)).toOption.getD ByteArray.empty
    if piece.isEmpty then
      match s.reader.close c with
      | none => return .error s
      | some e =>
        match ← Xargs.handle j s e with
        | .ok s | .error s => return .error s
    match ← Xargs.feed j isMarked s piece with
    | .ok s => return .ok s
    | .error s => return .error s
  let s ← if !isMarked ∧ (s.gathered ≠ [] ∨ (!s.ran ∧ !c.skipsEmpty)) then Xargs.runGathered j s
    else pure s
  Xargs.finish j s 0

end JarLauncher.Tool
