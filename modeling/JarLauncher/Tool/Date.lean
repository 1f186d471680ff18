import JarLauncher.Calendar.Format
import JarLauncher.Calendar.Reader
import JarLauncher.Tool.Option

/-! The tool that shows moments, and the clock that tools tell the time by. -/

namespace JarLauncher.Tool

open Unix
open Shell (text newline)
open Calendar (Moment)

namespace Clock

/-- what a clock is called, and how many seconds it is ahead -/
structure Zone where
  name : String
  ahead : Int

def universal : Zone := ⟨"UTC", 0⟩

/-- A zone as it is described: a name, and how far the clock is behind. -/
def Zone.ofText (bs : Bytes) : Zone :=
  let cs := bs.map Shell.chr
  let (name, rest) := cs.span Char.isAlpha
  let (sign, rest) : Int × List Char := match rest with
    | '-' :: rest => (1, rest)
    | '+' :: rest => (-1, rest)
    | rest => (-1, rest)
  let number (cs : List Char) : Nat := cs.foldl (fun n c => n * 10 + (c.toNat - 48)) 0
  let (hours, rest) := rest.span Char.isDigit
  let minutes := match rest with
    | ':' :: rest => number (rest.takeWhile Char.isDigit)
    | _ => 0
  if name.length < 3 then ⟨"", 0⟩
  else ⟨String.ofList name, sign * (number hours * 3600 + minutes * 60 : Nat)⟩

/-- the zone that the environment asks for -/
def zone : Work Zone := do
  match (← get).env.lookup (text "TZ") with
  | some [] | none => return universal
  | some bs => return Zone.ofText bs

def moment (z : Zone) (seconds : Int) (nanos : Nat) : Moment :=
  Moment.ofSeconds seconds nanos z.ahead z.name

def now (z : Zone) : Work Moment := do
  let (seconds, nanos) ← Work.act (Act.ask fun _ s => s.clock)
  return moment z seconds nanos

/-- the moment that a file was last changed -/
def changed (z : Zone) (n : Node) : Moment :=
  let (seconds, nanos) := System.clockOf n.changed
  moment z seconds nanos

end Clock

namespace Date

/-- where the moments come from -/
inductive Source where
  | now
  | said (bs : Bytes)
  | file (path : Bytes)
  /-- each line of a file says one -/
  | lines (path : Bytes)
  /-- the least time between two -/
  | tick

structure Choice where
  source : Source := .now
  /-- it was said from where moments are to come, in this way -/
  said : Option Char := none
  /-- it was said in several ways -/
  isMixed : Bool := false
  universal : Bool := false
  pattern : Option String := none
  sets : Bool := false

/-- the patterns that a word asks for -/
def isoPatterns : List (String × String) :=
  [("hours", "%Y-%m-%dT%H%:z"), ("minutes", "%Y-%m-%dT%H:%M%:z"), ("date", "%Y-%m-%d"),
   ("seconds", "%Y-%m-%dT%H:%M:%S%:z"), ("ns", "%Y-%m-%dT%H:%M:%S,%N%:z")]

def mailPatterns : List (String × String) :=
  [("date", "%Y-%m-%d"), ("seconds", "%Y-%m-%d %H:%M:%S%:z"), ("ns", "%Y-%m-%d %H:%M:%S.%N%:z")]

def usualPattern : String := "%a %b %e %H:%M:%S %Z %Y"

def patternOption (option : String) (patterns : List (String × String)) (value : Bytes) :
    Work String := do
  let begun := patterns.filter fun (word, _) => value.isPrefixOf (text word)
  match patterns.find? fun (word, _) => text word = value, begun with
  | some (_, p), _ | none, [(_, p)] => return p
  | none, begun =>
    let kind := if begun.isEmpty then "invalid" else "ambiguous"
    let listed := patterns.map fun (word, _) => text ("\n  - '" ++ word ++ "'")
    Work.misuse (text kind :: text " argument " :: Quoting.always value ::
      text (" for '--" ++ option ++ "'\nValid arguments are:") :: listed)

def Choice.comes (c : Choice) (source : Source) (letter : Char) : Choice :=
  { c with
    source := source, said := some letter, isMixed := c.isMixed || c.said.any (· ≠ letter) }

def Choice.shows (c : Choice) (pattern : String) : Work Choice := do
  if c.pattern.isSome then Work.fail [text "multiple output formats specified"]
  return { c with pattern := some pattern }

def take (c : Choice) (g : Given) : Work Choice := do
  let value := g.value.getD []
  match g.letter with
  | 'd' => return c.comes (.said value) 'd'
  | 'f' => return c.comes (.lines value) 'f'
  | 'r' => return c.comes (.file value) 'r'
  | '0' => return c.comes .tick '0'
  | 's' => return { c with source := .said value, sets := true }
  | 'I' =>
    match g.value with
    | none => c.shows "%Y-%m-%d"
    | some value => do c.shows (← patternOption "iso-8601" isoPatterns value)
  | 'R' => c.shows "%a, %d %b %Y %H:%M:%S %z"
  | '3' => do c.shows (← patternOption "rfc-3339" mailPatterns value)
  | 'u' => return { c with universal := true }
  | _ => return c

def menu : Menu :=
  { letters := "d:f:I::r:Rs:u"
    words := [valued "date" 'd', valued "file" 'f', ⟨"iso-8601", .optional, 'I'⟩,
      valued "reference" 'r', flag "rfc-email" 'R', flag "rfc-822" 'R', flag "rfc-2822" 'R',
      valued "rfc-3339" '3', valued "set" 's', flag "universal" 'u', flag "utc" 'u',
      flag "uct" 'u', flag "debug" 'x', flag "resolution" '0'] }

def invalid (bs : Bytes) : Work Unit := Work.warn [text "invalid date ", Quoting.plain bs]

/-- show the moment that a text says -/
def showSaid (z : Clock.Zone) (pattern bs : Bytes) : Work Unit := do
  match Calendar.read? (← Clock.now z) bs with
  | some (seconds, nanos) => Work.putLine ((Clock.moment z seconds nanos).shown pattern)
  | none => invalid bs

/-- the pattern and whatever else was given -/
def patternOf (operands : List Bytes) : Option Bytes × List Bytes :=
  match operands with
  | (43 :: pattern) :: rest => (some pattern, rest)
  | operands => (none, operands)

/-- say which options and operands do not go together -/
def check (c : Choice) (operands : List Bytes) : Work Unit := do
  if c.isMixed then
    Work.misuse [text "the options to specify dates for printing are mutually exclusive"]
  if c.sets && c.said.isSome then
    Work.misuse [text "the options to print and set the time may not be used together"]
  if let some extra := operands[1]? then Work.extraOperand extra
  if let some x := operands.head? then
    if x.head? = some 43 then
      if c.pattern.isSome then Work.fail [text "multiple output formats specified"]
    else if c.sets || c.said.isSome then
      Work.misuse [text "the argument ", Quoting.plain x, text " lacks a leading '+';\n",
        text "when using an option to specify date(s), any non-option\n",
        text "argument must be a format string beginning with '+'"]

end Date

def date : Routine := fun args => do
  let (c, operands) ← Work.options Date.menu args { : Date.Choice } Date.take
  Date.check c operands
  let z ← if c.universal then pure Clock.universal else Clock.zone
  let (pattern, operands) := Date.patternOf operands
  if let some extra := operands.head? then Date.invalid extra
  else
    let usual := if c.said = some '0' then "%s.%N" else Date.usualPattern
    let pattern := pattern.getD (text (c.pattern.getD usual))
    if c.sets then Work.warn [text "cannot set date: Operation not permitted"]
    match c.source with
    | .now => Work.putLine ((← Clock.now z).shown pattern)
    | .tick => Work.putLine ((Clock.moment z 0 1).shown pattern)
    | .said bs => Date.showSaid z pattern bs
    | .file path =>
      match ← Work.node? path with
      | .ok n => Work.putLine ((Clock.changed z n).shown pattern)
      | .error e => Work.fail [Quoting.name path, text ": ", reason e]
    | .lines path =>
      match ← Work.openOperand path with
      | .error e => Work.fail [Quoting.name path, text ": ", reason e]
      | .ok fd =>
        match ← Work.readAll fd with
        | .error e => Work.fail [Quoting.name path, text ": ", reason e]
        | .ok data =>
          let lines := Path.splitOn newline data.toList
          let lines := if lines.getLast? = some [] then lines.dropLast else lines
          lines.forM (Date.showSaid z pattern)

end JarLauncher.Tool
