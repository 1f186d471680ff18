import JarLauncher.Tool.Count

/-! Tools that pass on what they read: as it is, or a part of it. -/

namespace JarLauncher.Tool

open Unix
open Shell (text newline decimal)

/-- write a piece at once, behind what has gathered -/
def writeThrough (piece : ByteArray) : Work Unit := do
  Work.putPiece piece
  Work.flush

/-- a file is read, and standard output goes to a file; then what fails is laid to the former -/
def joinsFiles (fd : Nat) : Act Bool := Act.ask fun p s =>
  match s.opened? p fd, s.opened? p 1 with
  | some (_, i), some (_, o) =>
    (s.tree.content i.node).isFile && (s.tree.content o.node).isFile && !o.append
  | _, _ => false

/-- standard output goes to the file that is read, behind where it is read -/
def feedsItself (fd : Nat) : Act Bool := Act.ask fun p s =>
  match s.opened? p fd, s.opened? p 1 with
  | some (_, i), some (_, o) =>
    match s.tree.content o.node with
    | .file data => i.node = o.node && i.offset < if o.append then data.size else o.offset
    | _ => false
  | _, _ => false

/-- how `cat` shows lines -/
structure Shown where
  numbers : Bool := false
  numbersFilled : Bool := false
  ends : Bool := false
  tabs : Bool := false
  hidden : Bool := false
  squeezes : Bool := false
  deriving DecidableEq

namespace Shown

/-- where a text is between lines -/
structure Place where
  line : Nat
  atStart : Bool
  /-- empty lines in a row so far -/
  empty : Nat

def caret (b : UInt8) : Bytes :=
  let low (b : UInt8) : Bytes := if b < 32 then [94, b + 64] else if b = 127 then [94, 63] else [b]
  if b < 128 then low b else text "M-" ++ low (b - 128)

def octet (how : Shown) (b : UInt8) : Bytes :=
  if b = 9 then (if how.tabs then [94, 73] else [9])
  else if how.hidden then caret b else [b]

def number (n : Nat) : Bytes :=
  let ds := decimal n
  List.replicate (6 - ds.length) 32 ++ ds ++ [9]

def show_ (how : Shown) : Place → Bytes → Bytes → Bytes × Place
  | p, done, [] => (done.reverse, p)
  | p, done, b :: rest =>
    if b = newline ∧ p.atStart then
      if how.squeezes ∧ p.empty ≠ 0 then how.show_ p done rest
      else
        let numbered := how.numbers && !how.numbersFilled
        let shown :=
          (if numbered then number p.line else []) ++ (if how.ends then [36] else []) ++ [b]
        how.show_ ⟨if numbered then p.line + 1 else p.line, true, p.empty + 1⟩
          (shown.reverse ++ done) rest
    else
      let numbered := p.atStart && (how.numbers || how.numbersFilled)
      let start := if numbered then number p.line else []
      let shown := if b = newline then (if how.ends then [36] else []) ++ [b] else how.octet b
      how.show_ ⟨if numbered then p.line + 1 else p.line, b = newline, 0⟩
        ((start ++ shown).reverse ++ done) rest

end Shown

def cat : Routine := fun args => do
  let menu : Menu := { letters := "benstuvAET", words := [flag "number-nonblank" 'b',
    flag "number" 'n', flag "squeeze-blank" 's', flag "show-nonprinting" 'v', flag "show-ends" 'E',
    flag "show-tabs" 'T', flag "show-all" 'A'] }
  let (how, operands) ← Work.options menu args { : Shown } fun how g => return match g.letter with
    | 'b' => { how with numbersFilled := true }
    | 'n' => { how with numbers := true }
    | 's' => { how with squeezes := true }
    | 'v' => { how with hidden := true }
    | 'e' => { how with hidden := true, ends := true }
    | 't' => { how with hidden := true, tabs := true }
    | 'A' => { how with hidden := true, ends := true, tabs := true }
    | 'E' => { how with ends := true }
    | 'T' => { how with tabs := true }
    | _ => how
  if (← Work.act (Act.ask fun p s => s.opened? p 1)).isNone then
    Work.fail [text "standard output: ", reason Errno.badDescriptor]
  let mut place : Shown.Place := ⟨1, true, 0⟩
  for x in Work.orInput operands do
    match ← Work.openOperand x with
    | .error e => Work.warn [Quoting.name x, text ": ", reason e]
    | .ok fd =>
      if ← Work.act (feedsItself fd) then
        Work.warn [Quoting.name x, text ": input file is output file"]
      else
        let joined ← Work.act (joinsFiles fd)
        place ← Work.loop place fun place => do
          match ← Work.act (Act.read fd 131072) with
          | .error e =>
            Work.warn [Quoting.name x, text ": ", reason e]
            return .error place
          | .ok piece =>
            if piece.isEmpty then
              if joined && how = { : Shown } then
                if let some e ← Work.act (Act.checkRoom 1) then
                  Work.warn [Quoting.name x, text ": ", reason e]
              return .error place
            if how = { : Shown } then
              if joined then
                if let some e ← Work.act (Act.writeAll 1 piece) then
                  Work.warn [Quoting.name x, text ": ", reason e]
                  return .error place
              else writeThrough piece
              return .ok place
            else
              let (shown, place) := how.show_ place [] piece.toList
              writeThrough (Act.octets shown)
              return .ok place
      Work.closeOperand x fd
  Work.closeInput operands "closing standard input"

/-- what becomes of a copy when one of its goals cannot be written -/
structure Losses where
  /-- a pipe that nobody reads is a fault too -/
  pipes : Bool
  /-- a fault ends the copy -/
  ends : Bool
  deriving BEq

namespace Losses

def words : List (String × Losses) :=
  [("warn", ⟨true, false⟩), ("warn-nopipe", ⟨false, false⟩), ("exit", ⟨true, true⟩),
   ("exit-nopipe", ⟨false, true⟩)]

end Losses

/-- how input is copied to several goals -/
structure Tee where
  appends : Bool := false
  losses : Option Losses := none

def Tee.take (t : Tee) (g : Given) : Work Tee := do
  match g.letter, g.value with
  | 'a', _ => return { t with appends := true }
  | 'i', _ =>
    Work.act (Act.setDisposition Signal.int .ignored)
    return t
  | _, none => return { t with losses := some ⟨false, false⟩ }
  | _, some value =>
    return { t with losses := some (← Work.choose "--output-error" Losses.words value) }

def tee : Routine := fun args => do
  let (t, operands) ← Work.options
    { letters := "aip"
      words := [flag "append" 'a', flag "ignore-interrupts" 'i', ⟨"output-error", .optional, 'p'⟩] }
    args { : Tee } Tee.take
  let access := if t.appends then Access.append else Access.write
  if t.losses.isSome then Work.act (Act.setDisposition Signal.pipe .ignored)
  let ends := t.losses.any (·.ends)
  let fault (name : Bytes) (e : Int) : Work Unit := do
    if e ≠ Errno.brokenPipe ∨ t.losses.all (·.pipes) then
      Work.warn [name, text ": ", reason e]
      if ends then throw (← get).failure
  let mut goals : List (Bytes × Nat) := [(text "'standard output'", 1)]
  for x in operands do
    match ← Work.act (Act.openPath x access) with
    | .ok fd => goals := goals ++ [(Quoting.name x, fd)]
    | .error e =>
      Work.warn [Quoting.name x, text ": ", reason e]
      if ends then throw (← get).failure
  Work.loop goals fun goals => do
    if goals.isEmpty then return .error ()
    match ← Work.act (Act.read 0 8192) with
    | .error e =>
      Work.warn [text "read error: ", reason e]
      return .error ()
    | .ok piece =>
      if piece.isEmpty then return .error ()
      let mut left := []
      for (name, fd) in goals do
        match ← Work.act (Act.writeAll fd piece) with
        | none => left := left ++ [(name, fd)]
        | some e => fault name e
      return .ok left
  Work.closeInput [] "standard input"

def yes : Routine := fun args => do
  let (_, operands) ← Work.flags { letters := "" } args
  let words := if operands.isEmpty then [text "y"] else operands
  let line := (words.intersperse [32]).flatten ++ [newline]
  let piece := Act.octets (List.replicate (max 1 (8192 / line.length)) line).flatten
  Work.loop () fun () => do
    match ← Work.act (Act.writeAll 1 piece) with
    | none => return .ok ()
    | some e => Work.fail [text "standard output: ", reason e]

/-- a number in a column -/
def column (width n : Nat) : Bytes :=
  let digits := decimal n
  List.replicate (width - digits.length) 32 ++ digits

/-- what `wc` counts: lines, words, octets and the width of the widest line -/
structure Counts where
  lines : Nat := 0
  words : Nat := 0
  octets : Nat := 0
  widest : Nat := 0
  /-- of the line that is read -/
  width : Nat := 0
  inWord : Bool := false

namespace Counts

def add (c : Counts) (b : UInt8) : Counts :=
  let isSpace : Bool := b == 32 || (9 ≤ b && b ≤ 13)
  let isShown : Bool := Quoting.isPrintable b && !isSpace
  let c := { c with
    octets := c.octets + 1
    lines := if b = newline then c.lines + 1 else c.lines
    words := if isShown && !c.inWord then c.words + 1 else c.words
    inWord := if isSpace then false else c.inWord || isShown }
  if b = newline ∨ b = 13 ∨ b = 12 then { c with widest := max c.widest c.width, width := 0 }
  else if b = 9 then { c with width := c.width + 8 - c.width % 8 }
  else if Quoting.isPrintable b then { c with width := c.width + 1 }
  else c

def finish (c : Counts) : Counts :=
  { c with widest := max c.widest c.width, width := 0, inWord := false }

def total (a b : Counts) : Counts :=
  { lines := a.lines + b.lines, words := a.words + b.words, octets := a.octets + b.octets,
    widest := max a.widest b.widest }

/-- the counts that were asked for, in columns -/
def row (c : Counts) (on : List Char) (width : Nat) (name : Bytes) : Bytes :=
  let all := [('l', c.lines), ('w', c.words), ('m', c.octets), ('c', c.octets), ('L', c.widest)]
  let cells := all.filter fun x => on.contains x.1
  ((cells.map fun x => column width x.2).intersperse [32]).flatten ++
    (if name = [] then [] else 32 :: name)

end Counts

/-- how wide the columns have to be for the sizes of these files -/
def countWidth (operands : List Bytes) (single : Bool) (p : Pid) (s : System) : Nat :=
  if operands.length ≤ 1 ∧ single then 1
  else
    let sizes := operands.filterMap fun x =>
      let node? := if x = Work.dash then (s.opened? p 0).map fun o => o.2.node
        else (s.find p x).toOption
      node?.map fun n => match s.tree.content n with
        | .file data => some data.size
        | _ => none
    let width := (decimal ((sizes.filterMap id).foldl (· + ·) 0)).length
    if sizes.contains none then max 7 width else width

/-- when the counts of all files together are told -/
inductive Sum where
  | ifSeveral
  | always
  | only
  | never
  deriving DecidableEq

structure Wc where
  on : List Char := []
  sum : Sum := .ifSeveral
  /-- the file that lists the names of the files -/
  names : Option Bytes := none

def Wc.take (w : Wc) (g : Given) : Work Wc := do
  let value := g.value.getD []
  match g.letter with
  | '0' => return { w with names := some value }
  | 't' =>
    let words := [("auto", Sum.ifSeveral), ("always", .always), ("only", .only), ("never", .never)]
    return { w with sum := ← Work.choose "--total" words value }
  | c => return { w with on := w.on ++ [c] }

/-- the files that are counted, and whether it is known beforehand how many there are -/
def Wc.files (w : Wc) (operands : List Bytes) : Work (List Bytes × Bool) := do
  match w.names, operands with
  | none, _ => return (Work.orInput operands, true)
  | some _, extra :: _ =>
    Work.complain [text "extra operand ", Quoting.always extra]
    Work.say [text "file operands cannot be combined with --files0-from\n"]
    Work.usage
  | some list, [] =>
    match ← Work.openOperand list with
    | .error e =>
      Work.fail [text "cannot open ", Quoting.always list, text " for reading: ", reason e]
    | .ok fd =>
      let isKnown ← Work.act (Act.ask fun p s => (s.opened? p fd).any fun o =>
        (s.tree.content o.2.node).isFile)
      match ← Work.readAll fd with
      | .error e => Work.fail [Quoting.name list, text ": read error: ", reason e]
      | .ok data =>
        let parts := Path.splitOn 0 data.toList
        return (if parts.getLast? = some [] then parts.dropLast else parts, isKnown)

/-- count one file; nothing if it cannot be opened -/
def countFile (x : Bytes) : Work (Option Counts) := do
  match ← Work.openOperand x with
  | .error e =>
    Work.warn [Quoting.name x, text ": ", reason e]
    return none
  | .ok fd =>
    let counts ← Work.loop { : Counts } fun c => do
      match ← Work.act (Act.read fd 16384) with
      | .error e =>
        Work.warn [Quoting.name (if x = Work.dash then text "standard input" else x), text ": ",
          reason e]
        return .error c.finish
      | .ok piece =>
        return if piece.isEmpty then .error c.finish else .ok (piece.foldl Counts.add c)
    Work.closeOperand x fd
    return some counts

def wc : Routine := fun args => do
  let menu : Menu :=
    { letters := "clLmw"
      words := [flag "bytes" 'c', flag "chars" 'm', flag "lines" 'l', flag "words" 'w',
        valued "files0-from" '0', flag "max-line-length" 'L', valued "total" 't'] }
  let (w, operands) ← Work.options menu args { : Wc } Wc.take
  let on := if w.on.isEmpty then ['l', 'w', 'c'] else w.on.eraseDups
  let (files, isKnown) ← w.files operands
  let width ← if w.sum = .only ∨ !isKnown then pure 1
    else Work.act (Act.ask (countWidth files (on.length = 1)))
  let mut total : Counts := {}
  for (x, i) in files.zipIdx 1 do
    if x = [] then
      let place := w.names.elim [] fun list =>
        [Quoting.name list, text ":", Shell.decimal i, text ": "]
      Work.warn (place ++ [text "invalid zero-length file name"])
    else if w.names = some Work.dash ∧ x = Work.dash then
      Work.warn [text "when reading file names from stdin, no file name of ", Quoting.always x,
        text " allowed"]
    else if let some counts ← countFile x then
      if w.sum ≠ .only then
        Work.putLine (counts.row on width (if w.names.isNone ∧ operands.isEmpty then [] else x))
      total := total.total counts
  if w.sum = .always ∨ w.sum = .only ∨ (w.sum = .ifSeveral ∧ 1 < files.length) then
    Work.putLine (total.row on width (if w.sum = .only then [] else text "total"))
  Work.closeInput operands "-"

end JarLauncher.Tool
