import JarLauncher.Tool.Copy
import JarLauncher.Tool.Input
import JarLauncher.Tool.Regex

/-! Lines laid out in another way: numbered, cut to a width, side by side, or turned round. -/

namespace JarLauncher.Tool

open Unix
open Shell (text newline)

namespace Numbering

/-- which lines have numbers -/
inductive Style where
  | all
  | filled
  | none
  | matching (r : Regex)

/-- the parts of a page -/
inductive Section where
  | header
  | body
  | footer
  deriving DecidableEq

inductive Alignment where
  | left
  | right
  | zeros

structure Choice where
  header : Style := .none
  body : Style := .filled
  footer : Style := .none
  /-- what a line that opens a section is made of -/
  mark : Bytes := text "\\:"
  start : Int := 1
  step : Int := 1
  /-- how many empty lines count as one -/
  joined : Nat := 1
  restarts : Bool := true
  separator : Bytes := [9]
  width : Nat := 6
  alignment : Alignment := .right

def style (what : String) (value : Bytes) : Work Style := do
  match value with
  | 97 :: _ => return .all
  | 116 :: _ => return .filled
  | 110 :: _ => return .none
  | 112 :: pattern =>
    match Regex.read? {} pattern with
    | .ok (r, _) => return .matching r
    | .error message => Work.fail [text message]
  | _ => Work.misuse [text ("invalid " ++ what ++ " numbering style: "), Quoting.plain value]

/-- one or two octets replace those of the usual mark -/
def markOf (old value : Bytes) : Bytes :=
  match value with
  | [b] => b :: old.drop 1
  | _ => value

def take (c : Choice) (g : Given) : Work Choice := do
  let value := g.value.getD []
  let count (what : String) : Work Nat :=
    return (← Work.numberIn what 1 Count.greatestSigned value).toNat
  let signed (what : String) : Work Int :=
    Work.numberIn what Count.leastSigned Count.greatestSigned value
  match g.letter with
  | 'h' => return { c with header := ← style "header" value }
  | 'b' => return { c with body := ← style "body" value }
  | 'f' => return { c with footer := ← style "footer" value }
  | 'v' => return { c with start := ← signed "invalid starting line number" }
  | 'i' => return { c with step := ← signed "invalid line number increment" }
  | 'p' => return { c with restarts := false }
  | 'l' => return { c with joined := ← count "invalid line number of blank lines" }
  | 's' => return { c with separator := value }
  | 'w' => return { c with
      width := (← Work.numberIn "invalid line number field width" 1 2147483647 value).toNat }
  | 'n' =>
    match Utf8.lossy value with
    | "ln" => return { c with alignment := .left }
    | "rn" => return { c with alignment := .right }
    | "rz" => return { c with alignment := .zeros }
    | _ => Work.misuse [text "invalid line numbering format: ", Quoting.plain value]
  | _ => return { c with mark := markOf c.mark value }

def menu : Menu :=
  { letters := "h:b:f:v:i:pl:s:w:n:d:"
    words := [valued "header-numbering" 'h', valued "body-numbering" 'b',
      valued "footer-numbering" 'f', valued "starting-line-number" 'v', valued "line-increment" 'i',
      flag "no-renumber" 'p', valued "join-blank-lines" 'l', valued "number-separator" 's',
      valued "number-width" 'w', valued "number-format" 'n', valued "section-delimiter" 'd'] }

/-- the section that a line opens -/
def section? (c : Choice) (line : Bytes) : Option Section :=
  if c.mark.length < 2 then none
  else if line = c.mark ++ c.mark ++ c.mark then some .header
  else if line = c.mark ++ c.mark then some .body
  else if line = c.mark then some .footer
  else none

/-- where a text is -/
structure Place where
  part : Section := .body
  number : Int
  /-- empty lines in a row -/
  empty : Nat := 1

def Choice.styleOf (c : Choice) : Section → Style
  | .header => c.header
  | .body => c.body
  | .footer => c.footer

def Choice.shown (c : Choice) (n : Int) : Bytes :=
  let digits := Shell.decimal n.natAbs
  let sign : Bytes := if n < 0 then [45] else []
  let room := c.width - digits.length - sign.length
  match c.alignment with
  | .left => sign ++ digits ++ List.replicate room 32
  | .right => List.replicate room 32 ++ sign ++ digits
  | .zeros => sign ++ List.replicate room 48 ++ digits

/-- whether a line has a number, and how many empty ones there are in a row then -/
def Choice.isNumbered (c : Choice) (p : Place) (line : Bytes) : Bool × Nat :=
  match c.styleOf p.part with
  | .all =>
    if c.joined ≤ 1 then (true, p.empty)
    else if line ≠ [] ∨ p.empty = c.joined then (true, 1)
    else (false, p.empty + 1)
  | .filled => (line ≠ [], p.empty)
  | .none => (false, p.empty)
  | .matching r => ((r.find? (Act.octets line) 0).isSome, p.empty)

/-- a line as it is shown, and the place behind it -/
def next (c : Choice) (p : Place) (line : Bytes) : Bytes × Place :=
  match section? c line with
  | some part => ([], { p with part := part, number := if c.restarts then c.start else p.number })
  | none =>
    let (numbered, empty) := c.isNumbered p line
    if numbered then
      (c.shown p.number ++ c.separator ++ line,
        { p with number := p.number + c.step, empty := empty })
    else (List.replicate (c.width + c.separator.length) 32 ++ line, { p with empty := empty })

end Numbering

def nl : Routine := fun args => do
  let (c, operands) ← Work.options Numbering.menu args { : Numbering.Choice } Numbering.take
  let _ ← Work.eachLineOf operands newline { number := c.start : Numbering.Place } fun p l => do
    let (shown, p) := Numbering.next c p l.octets
    Work.putLine shown
    return p

namespace Folding

structure Choice where
  /-- each octet takes one column -/
  octets : Bool := false
  /-- lines are cut behind blanks where there are any -/
  atBlanks : Bool := false
  width : Nat := 80

def advance (c : Choice) (column : Nat) (b : UInt8) : Nat :=
  if c.octets then column + 1
  else if b = 8 then column - 1
  else if b = 13 then 0
  else if b = 9 then column + 8 - column % 8
  else column + 1

/-- a line that is not yet written, its last octet first -/
structure Pending where
  octets : Bytes := []
  column : Nat := 0

/-- Take an octet. When there is no room, what is pending is written up to its last blank or as a
whole, and the octet is tried again; three times are enough. -/
def push (c : Choice) (b : UInt8) : Nat → ByteArray → Pending → ByteArray × Pending
  | 0, out, p => (out, p)
  | fuel + 1, out, p =>
    let write (reversed : Bytes) : ByteArray := reversed.reverse.foldl ByteArray.push out
    if b = newline then (write (newline :: p.octets), {})
    else
      let column := advance c p.column b
      let fits : Pending := ⟨b :: p.octets, column⟩
      if column ≤ c.width then (out, fits)
      else
        let (after, before) := p.octets.span fun b => !Shell.isBlank b
        if c.atBlanks ∧ before ≠ [] then
          push c b fuel (write (newline :: before))
            ⟨after, after.reverse.foldl (advance c) 0⟩
        else if p.octets = [] then (out, fits)
        else push c b fuel (write (newline :: p.octets)) {}

def take (c : Choice) (g : Given) : Work Choice := do
  let width (value : Bytes) : Work Choice := do
    let n ← Work.numberIn "invalid number of columns" 1 (Count.greatest - 9) value
    return { c with width := n.toNat }
  match g.letter with
  | 'b' => return { c with octets := true }
  | 's' => return { c with atBlanks := true }
  | 'w' => width (g.value.getD [])
  | digit => width (text (String.ofList [digit]) ++ g.value.getD [])

def menu : Menu :=
  { letters := "bsw:0::1::2::3::4::5::6::7::8::9::"
    words := [flag "bytes" 'b', flag "spaces" 's', valued "width" 'w'] }

end Folding

def fold : Routine := fun args => do
  let (c, operands) ← Work.options Folding.menu args { : Folding.Choice } Folding.take
  Work.eachOperand operands () fun () fd => do
    let (p, fault) ← Work.eachPiece fd 4096 { : Folding.Pending } fun p piece => do
      let (out, p) := piece.foldl (fun (out, p) b => Folding.push c b 4 out p) (ByteArray.empty, p)
      Work.putPiece out
      return p
    Work.put p.octets.reverse
    return ((), fault)
  Work.closeInput operands "-"

namespace Pasting

structure Choice where
  /-- what stands between lines, in turn; nothing if it is none -/
  separators : List (Option UInt8) := [some 9]
  serial : Bool := false
  ending : UInt8 := newline

/-- the separators that octets spell; none if a backslash at the end escapes nothing -/
def separators? : Bytes → Option (List (Option UInt8))
  | [] => some []
  | [92] => none
  | 92 :: b :: rest => (separators? rest).map fun more => (match Shell.chr b with
    | '0' => none
    | 'b' => some 8
    | 'f' => some 12
    | 'n' => some 10
    | 'r' => some 13
    | 't' => some 9
    | 'v' => some 11
    | _ => some b) :: more
  | b :: rest => (separators? rest).map (some b :: ·)

def take (c : Choice) (g : Given) : Work Choice := do
  match g.letter with
  | 's' => return { c with serial := true }
  | 'z' => return { c with ending := 0 }
  | _ =>
    let value := g.value.getD []
    match separators? (if value = [] then text "\\0" else value) with
    | some list => return { c with separators := list }
    | none =>
      Work.fail [text "delimiter list ends with an unescaped backslash: ", value]

def Choice.separator (c : Choice) (i : Nat) : Bytes :=
  ((c.separators[i % max 1 c.separators.length]?).join).toList

/-- the lines of one input in one -/
def inOne (c : Choice) (fd : Nat) : Work (Option Int) := do
  let (count, fault, _) ← Work.eachLine { fd := fd } c.ending 0 fun count l => do
    Work.put ((if count = 0 then [] else c.separator (count - 1)) ++ l.octets)
    return .ok (count + 1)
  let _ := count
  Work.put [c.ending]
  return fault

/-- inputs side by side: the sources, and for each operand the one that it reads while it is open -/
structure Beside where
  sources : List Source
  columns : List (Option Nat × Bytes)

/-- One line of each input that is still open. What stands between columns is written once there is
something behind it, or at the end of a line that holds something. -/
def row (c : Choice) (count : Nat) :
    Nat → Beside → List (Option Nat × Bytes) → Bytes → Bool → Work Beside
  | _, s, [], _, _ => return s
  | i, s, (source?, name) :: more, due, any => do
    let isLast := i + 1 = count
    let closed (s : Beside) : Work Beside := do
      let s := { s with columns := s.columns.set i (none, name) }
      if s.columns.all fun (x, _) => x.isNone then return s
      if isLast then
        if any then Work.put (due ++ [c.ending])
        return s
      row c count (i + 1) s more (due ++ c.separator i) any
    match source?.bind fun k => (s.sources[k]?).map fun source => (k, source) with
    | none => closed s
    | some (k, source) =>
      match ← source.line c.ending with
      | .error e =>
        Work.warn [Quoting.name name, text ": ", reason e]
        closed s
      | .ok (l, source) =>
        let s := { s with sources := s.sources.set k source }
        match l with
        | none => closed s
        | some l =>
          Work.put (due ++ l.octets ++ if isLast then [c.ending] else c.separator i)
          row c count (i + 1) s more [] true

end Pasting

def paste : Routine := fun args => do
  let (c, operands) ← Work.options { letters := "d:sz", words := [flag "serial" 's',
    valued "delimiters" 'd', flag "zero-terminated" 'z'] } args { : Pasting.Choice } Pasting.take
  let operands := Work.orInput operands
  if c.serial then
    for x in operands do
      match ← Work.openOperand x with
      | .error e => Work.warn [Quoting.name x, text ": ", reason e]
      | .ok fd =>
        if let some e ← Pasting.inOne c fd then Work.warn [Quoting.name x, text ": ", reason e]
        Work.closeOperand x fd
  else
    let mut sources : List Source := [{ fd := 0 }]
    let mut columns : List (Option Nat × Bytes) := []
    for x in operands do
      if x = Work.dash then columns := columns ++ [(some 0, x)]
      else match ← Work.openOperand x with
        | .error e => Work.fail [Quoting.name x, text ": ", reason e]
        | .ok fd =>
          columns := columns ++ [(some sources.length, x)]
          sources := sources ++ [{ fd := fd }]
    Work.loop { sources, columns : Pasting.Beside } fun s => do
      if s.columns.all fun (x, _) => x.isNone then return .error ()
      return .ok (← Pasting.row c operands.length 0 s s.columns [] false)

namespace Turning

/-- what parts records -/
inductive Separator where
  | octets (bs : Bytes)
  | regex (r : Regex)

structure Choice where
  /-- separators stand in front of the records -/
  inFront : Bool := false
  isRegex : Bool := false
  separator : Option Bytes := none

/-- the separator that starts last before a place: where it starts and stops -/
def last? (s : Separator) (data : ByteArray) : Nat → Option (Nat × Nat)
  | 0 => none
  | i + 1 =>
    let stop? : Option Nat := match s with
      | .octets bs =>
        if (data.extract i (i + bs.length)).toList = bs then some (i + bs.length) else none
      | .regex r => (r.matchAt? data i).map Regex.Match.stop
    match stop? with
    | some stop => some (i, stop)
    | none => last? s data i

/-- the records of a text in front of a place, the last one first -/
def records (s : Separator) (inFront : Bool) (data : ByteArray) :
    Nat → Nat → Nat → List ByteArray
  | 0, _, stop => [data.extract 0 stop]
  | fuel + 1, from_, stop =>
    match last? s data from_ with
    | none => [data.extract 0 stop]
    | some (i, j) =>
      let goal := match s with
        | .octets bs => i + 1 - bs.length
        | .regex _ => i
      if inFront then data.extract i stop :: records s inFront data fuel goal i
      else data.extract j stop :: records s inFront data fuel goal j

end Turning

/-- the records of each operand, the last one first -/
def tac : Routine := fun args => do
  let (c, operands) ← Work.options { letters := "brs:", words := [flag "before" 'b',
    flag "regex" 'r', valued "separator" 's'] } args { : Turning.Choice } fun c g =>
      return match g.letter with
        | 'b' => { c with inFront := true }
        | 'r' => { c with isRegex := true }
        | _ => { c with separator := g.value }
  let bs := c.separator.getD [newline]
  if c.isRegex ∧ bs = [] then Work.fail [text "separator cannot be empty"]
  let separator ← if c.isRegex then
      match Regex.read? {} bs with
      | .ok (r, _) => pure (Turning.Separator.regex r)
      | .error message => Work.fail [text message]
    else pure (Turning.Separator.octets (if bs = [] then [0] else bs))
  for x in Work.orInput operands do
    match ← Work.openOperand x with
    | .error e =>
      Work.warn [text "failed to open ", Quoting.always x, text " for reading: ", reason e]
    | .ok fd =>
      match ← Work.readAll fd with
      | .error e => Work.warn [Quoting.name x, text ": read error: ", reason e]
      | .ok data =>
        (Turning.records separator c.inFront data (data.size + 1) data.size data.size).forM
          Work.putPiece
      Work.closeOperand x fd

/-- the octets of each line, the last one first -/
def rev : Routine := fun args => do
  let (ending, operands) ←
    Work.options { letters := "Vh0", words := [flag "zero" '0'] } args newline
    fun ending g => return if g.letter = '0' then 0 else ending
  for x in if operands.isEmpty then [Work.dash] else operands do
    let fd? ← if operands.isEmpty then pure (.ok 0) else Work.act (Act.openPath x Access.read)
    match fd? with
    | .error e => Work.warn [text "cannot open ", x, text ": ", reason e]
    | .ok fd =>
      let _ ← Work.eachLine { fd := fd } ending () fun () l => do
        Work.put ({ l with octets := l.octets.reverse }.whole ending)
        return .ok ()
      if !operands.isEmpty then Work.act (Act.close fd)

end JarLauncher.Tool
