import JarLauncher.Tool.Count

/-! Files copied block by block, and files made shorter or longer. -/

namespace JarLauncher.Tool

open Unix
open Shell (text newline)

/-- a copy in blocks -/
structure Dd where
  input : Option Bytes := none
  output : Option Bytes := none
  /-- the sizes of what is read and written at once, and of both -/
  reads : Nat := 512
  writes : Nat := 512
  both : Option Nat := none
  /-- these count blocks, or octets -/
  count : Option (Nat × Bool) := none
  skipped : Nat × Bool := (0, false)
  seek : Nat × Bool := (0, false)
  conversions : List String := []
  readFlags : List String := []
  writeFlags : List String := []
  status : String := ""

namespace Dd

/-- the words that an operand may list, with what it says of others -/
structure Words where
  words : List String
  refusal : String

def conversionWords : Words :=
  ⟨["ascii", "ebcdic", "ibm", "block", "unblock", "lcase", "ucase", "sparse", "swab", "noerror",
    "nocreat", "excl", "notrunc", "sync", "fdatasync", "fsync"], "invalid conversion"⟩

def flagWords (kind : String) : Words :=
  ⟨["append", "direct", "directory", "dsync", "noatime", "nocache", "noctty", "nofollow",
    "nonblock", "sync", "fullblock", "count_bytes", "skip_bytes", "seek_bytes"],
    "invalid " ++ kind ++ " flag"⟩

def statusWords : Words := ⟨["none", "noxfer", "progress"], "invalid status level"⟩

/-- the words of a list with commas -/
def listed (w : Words) (value : Bytes) : Work (List String) :=
  (Path.splitOn 44 value).mapM fun word =>
    if w.words.contains (Utf8.lossy word) then return Utf8.lossy word
    else Work.misuse [text (w.refusal ++ ": "), Quoting.plain word]

def units : String := "bcEGkKMPQRTwYZB"

/-- a number, or a product of several -/
def number? (value : Bytes) : Except Count.Fault Nat :=
  (Path.splitOn 120 value).foldlM (fun n part => do
    let isOctets := part.getLast? = some 66 ∧ ((part.reverse.drop 1).headD 0 |> Shell.isDigit)
    let m ← Count.scaled units (if isOctets then part.dropLast else part)
    if 9223372036854775807 < n * m then throw .large else return n * m) 1

/-- a number that is at least `least`, and whether it counts octets -/
def number (least : Nat) (value : Bytes) : Work (Nat × Bool) := do
  for part in (Path.splitOn 120 value).dropLast do
    if part = [48] then
      Work.complain [text "warning: '0x' is a zero multiplier; use '00x' if that is intended"]
  match number? value with
  | .error .meaningless => Work.fail [text "invalid number: ", Quoting.always value]
  | .error .large =>
    Work.fail [text "invalid number: ", Quoting.always value, text ": ", reason Errno.overflow]
  | .ok n =>
    if n < least then Work.fail [text "invalid number: ", Quoting.always value]
    return (n, value.contains 66)

def take (d : Dd) (arg : Bytes) : Work Dd := do
  let (key, value) := arg.span (· ≠ 61)
  if !arg.contains 61 then Work.misuse [text "unrecognized operand ", Quoting.always arg]
  let value := value.drop 1
  let size : Work Nat := return (← number 1 value).1
  match Utf8.lossy key with
  | "if" => return { d with input := some value }
  | "of" => return { d with output := some value }
  | "bs" => return { d with both := some (← size) }
  | "ibs" => return { d with reads := ← size }
  | "obs" => return { d with writes := ← size }
  | "cbs" =>
    let _ ← size
    return d
  | "count" => return { d with count := some (← number 0 value) }
  | "skip" | "iseek" => return { d with skipped := ← number 0 value }
  | "seek" | "oseek" => return { d with seek := ← number 0 value }
  | "conv" => return { d with conversions := d.conversions ++ (← listed conversionWords value) }
  | "iflag" => return { d with readFlags := d.readFlags ++ (← listed (flagWords "input") value) }
  | "oflag" => return { d with writeFlags := d.writeFlags ++ (← listed (flagWords "output") value) }
  | "status" => return { d with status := (← listed statusWords value).headD "" }
  | _ => Work.misuse [text "unrecognized operand ", Quoting.always arg]

/-- words that cannot stand together -/
def check (d : Dd) : Work Unit := do
  for (a, b) in [("block", "unblock"), ("lcase", "ucase"), ("excl", "nocreat")] do
    if d.conversions.contains a && d.conversions.contains b then
      Work.fail [text ("cannot combine " ++ a ++ " and " ++ b)]

def readSize (d : Dd) : Nat := d.both.getD d.reads

def writeSize (d : Dd) : Nat := d.both.getD d.writes

/-- a count of blocks or octets, in octets -/
def octets (size : Nat) (n : Nat × Bool) : Nat := if n.2 then n.1 else n.1 * size

def swapped : List UInt8 → List UInt8
  | a :: b :: rest => b :: a :: swapped rest
  | bs => bs

/-- what becomes of a block that was read -/
def convert (d : Dd) (piece : ByteArray) : ByteArray :=
  let does (word : String) : Bool := d.conversions.contains word
  let filled := if does "sync" then
      piece ++ Act.octets (List.replicate (d.readSize - piece.size) 0)
    else piece
  let cased := if does "ucase" then
      (⟨filled.data.map fun b => if 97 ≤ b ∧ b ≤ 122 then b - 32 else b⟩ : ByteArray)
    else if does "lcase" then ⟨filled.data.map fun b => if 65 ≤ b ∧ b ≤ 90 then b + 32 else b⟩
    else filled
  if does "swab" then Act.octets (swapped cased.toList) else cased

/-- how many records were read or written -/
structure Records where
  whole : Nat := 0
  /-- those that were short -/
  part : Nat := 0
  octets : Nat := 0

namespace Records

def add (r : Records) (size : Nat) (isWhole : Bool) : Records :=
  if isWhole then { r with whole := r.whole + 1, octets := r.octets + size }
  else { r with part := r.part + 1, octets := r.octets + size }

def all (r : Records) : Nat := r.whole + r.part

def shown (r : Records) : Bytes := Shell.decimal r.whole ++ [43] ++ Shell.decimal r.part

end Records

/-- where a copy is -/
structure State where
  read : Records := {}
  written : Records := {}
  /-- what is read and not yet written -/
  held : ByteArray := ByteArray.empty

def outputName (d : Dd) : Bytes := d.output.getD (text "standard output")

/-- write one record; false if that failed -/
def put (d : Dd) (output : Nat) (s : State) (piece : ByteArray) : Work (State × Bool) := do
  match ← Work.act (Act.writeCounted output piece) with
  | (n, some e) =>
    Work.warn [text "error writing ", Quoting.always d.outputName, text ": ", reason e]
    return ({ s with written := { s.written with octets := s.written.octets + n } }, false)
  | (n, none) => return ({ s with written := s.written.add n (piece.size = d.writeSize) }, true)

/-- write the records that are whole, and the rest too at the end -/
def drain (d : Dd) (output : Nat) (s : State) (atEnd : Bool) : Work (State × Bool) :=
  Work.loop s fun s => do
    let size := if atEnd then min d.writeSize s.held.size else d.writeSize
    if s.held.size < size ∨ size = 0 then return .error (s, true)
    let piece := s.held.extract 0 size
    let (s, isDone) ← d.put output { s with held := s.held.extract size s.held.size } piece
    return if isDone then .ok s else .error (s, false)

/-- read so much, or less if a read answers less -/
def block (d : Dd) (input count : Nat) : Work (FileTree.Answer ByteArray) :=
  Work.loop ByteArray.empty fun done => do
    match ← Work.act (Act.read input (count - done.size)) with
    | .error e => return .error (.error e)
    | .ok piece =>
      let all := done ++ piece
      if piece.isEmpty ∨ count ≤ all.size ∨ !d.readFlags.contains "fullblock" then
        return .error (.ok all)
      return .ok all

/-- how much more may be read: a block, or less at the end of a count -/
def wanted (d : Dd) (r : Records) : Nat :=
  let isCounted := d.readFlags.contains "count_bytes"
  match d.count with
  | none => d.readSize
  | some (n, isOctets) =>
    if isOctets || isCounted then min d.readSize (n - r.octets)
    else if r.all < n then d.readSize else 0

/-- pass over what is left out at the start; an input that cannot be moved in is read -/
def pass (d : Dd) (input : Nat) : Work Unit := do
  let n := octets d.readSize (d.skipped.1, d.skipped.2 || d.readFlags.contains "skip_bytes")
  if n = 0 then return
  let size? ← Work.act (Act.ask fun p s => do
    let (_, o) ← s.opened? p input
    match s.tree.content o.node with
    | .file data => some (data.size - o.offset)
    | _ => none)
  let isShort : Bool ← match size? with
    | some size => do
      Work.act (Act.modify fun p s => match s.opened? p input with
        | some (_, o) => (s.seek p input (o.offset + n)).2
        | none => s)
      pure (decide (size < n))
    | none =>
      Work.loop n fun left => do
        if left = 0 then return .error false
        match ← Work.act (Act.read input (min left d.readSize)) with
        | .error _ => return .error true
        | .ok piece => return if piece.isEmpty then .error true else .ok (left - piece.size)
  if isShort ∧ d.status ≠ "none" then
    Work.complain [Quoting.name (d.input.getD (text "standard input")),
      text ": cannot skip to specified offset"]

def copy (d : Dd) (input output : Nat) : Work State := do
  let (s, goesOn) ← Work.loop ({ : State }) fun s => do
    let count := d.wanted s.read
    if count = 0 then return .error (s, true)
    match ← d.block input count with
    | .error e =>
      Work.warn [text "error reading ", Quoting.always (d.input.getD (text "standard input")),
        text ": ", reason e]
      return .error (s, true)
    | .ok piece =>
      if piece.isEmpty then return .error (s, true)
      let s := { s with read := s.read.add piece.size (piece.size = d.readSize) }
      let piece := d.convert piece
      let (s, goesOn) ← if d.both.isSome then d.put output s piece
        else d.drain output { s with held := s.held ++ piece } false
      return if goesOn then .ok s else .error (s, false)
  if goesOn then return (← d.drain output s true).1 else return s

/-- open what is read and what is written -/
def openBoth (d : Dd) : Work (Nat × Nat) := do
  let refuse {α : Type} (x : Bytes) (e : Int) : Work α :=
    Work.fail [text "failed to open ", Quoting.always x, text ": ", reason e]
  let input ← match d.input with
    | none => pure 0
    | some x =>
      match ← Work.act (Act.openPath x Access.read) with
      | .ok fd => pure fd
      | .error e => refuse x e
  let start := octets d.writeSize (d.seek.1, d.seek.2 || d.writeFlags.contains "seek_bytes")
  let keeps := d.conversions.contains "notrunc"
  let access := { Access.write with
    truncates := !keeps && start = 0
    creates := !d.conversions.contains "nocreat"
    fresh := d.conversions.contains "excl"
    atEnd := d.writeFlags.contains "append" }
  let output ← match d.output with
    | none => pure 1
    | some x =>
      match ← Work.act (Act.openPath x access) with
      | .ok fd =>
        if !keeps && start ≠ 0 then
          let _ ← Work.act (Act.resize fd fun _ => start)
        pure fd
      | .error e => refuse x e
  if start ≠ 0 then Work.act (Act.modify fun p s => match s.opened? p output with
    | some (_, o) => (s.seek p output (o.offset + start)).2
    | none => s)
  return (input, output)

end Dd

def dd : Routine := fun args => do
  let (_, operands) ← Work.flags { letters := "" } args
  let d ← operands.foldlM Dd.take { : Dd }
  d.check
  let (input, output) ← d.openBoth
  d.pass input
  let s ← d.copy input output
  if d.status ≠ "none" then
    Work.say [s.read.shown, text " records in\n", s.written.shown, text " records out\n"]
    if d.status ≠ "noxfer" then
      Work.say [Shell.decimal s.written.octets,
        text (if s.written.octets = 1 then " byte copied, 0 s\n" else " bytes copied, 0 s\n")]

namespace Resizing

/-- how the new size comes of the old one -/
inductive Way where
  | absolute
  | relative
  | atLeast
  | atMost
  | roundedDown
  | roundedUp
  deriving DecidableEq

structure Choice where
  creates : Bool := true
  /-- sizes count blocks -/
  inBlocks : Bool := false
  like : Option Bytes := none
  size : Option (Way × Int) := none

def units : String := "EgGkKmMPQRtTYZ"

/-- a size with a sign that says how it is meant -/
def sizeOption (value : Bytes) : Work (Way × Int) := do
  let value := value.dropWhile Count.isBlank
  let (way, value) : Way × Bytes := match value.map Shell.chr with
    | '<' :: _ => (.atMost, value.drop 1)
    | '>' :: _ => (.atLeast, value.drop 1)
    | '/' :: _ => (.roundedDown, value.drop 1)
    | '%' :: _ => (.roundedUp, value.drop 1)
    | _ => (.absolute, value)
  let value := value.dropWhile Count.isBlank
  let isSigned := value.head? = some 43 ∨ value.head? = some 45
  if isSigned ∧ way ≠ .absolute then
    Work.misuse [text "multiple relative modifiers specified"]
  let way := if isSigned then .relative else way
  let digits := if value.head? = some 45 then value.drop 1 else value
  let refuse (why : List Bytes) : Work (Way × Int) :=
    Work.fail (text "Invalid number: " :: Quoting.plain value :: why)
  match if isSigned ∧ digits.head?.all (!Shell.isDigit ·) ∧ digits.head? ≠ some 43 then
      .error .meaningless else Count.scaled units digits with
  | .error .meaningless => refuse []
  | .error .large => refuse [text ": ", reason Errno.overflow]
  | .ok n =>
    if Count.greatestSigned < n then return ← refuse [text ": ", reason Errno.overflow]
    if n = 0 ∧ (way = .roundedDown ∨ way = .roundedUp) then Work.fail [text "division by zero"]
    return (way, if value.head? = some 45 then -(n : Int) else n)

def goal (way : Way) (n : Int) (size : Nat) : Nat :=
  let n' := n.toNat
  match way with
  | .absolute => n'
  | .relative => (size + n).toNat
  | .atLeast => max size n'
  | .atMost => min size n'
  | .roundedDown => size / n' * n'
  | .roundedUp => (size + n' - 1) / n' * n'

def menu : Menu :=
  { letters := "cor:s:"
    words := [flag "no-create" 'c', flag "io-blocks" 'o', valued "reference" 'r',
      valued "size" 's'] }

def take (c : Choice) (g : Given) : Work Choice := do
  match g.letter with
  | 'c' => return { c with creates := false }
  | 'o' => return { c with inBlocks := true }
  | 'r' => return { c with like := g.value }
  | _ => return { c with size := some (← sizeOption (g.value.getD [])) }

/-- how large a block is -/
def blockSize : Nat := 4096

end Resizing

/-- files made shorter, or longer with zeros -/
def truncate : Routine := fun args => do
  let (c, operands) ← Work.options Resizing.menu args { : Resizing.Choice } Resizing.take
  if c.size.isNone ∧ c.like.isNone then
    Work.misuse [text "you must specify either '--size' or '--reference'"]
  if c.like.isSome ∧ c.size.any fun s => s.1 = .absolute then
    Work.misuse [text "you must specify a relative '--size' with '--reference'"]
  if c.inBlocks ∧ c.size.isNone then
    Work.misuse [text "'--io-blocks' was specified but '--size' was not"]
  if operands.isEmpty then Work.misuse [text "missing file operand"]
  let like : Option Nat ← match c.like with
    | none => pure none
    | some x =>
      match ← Work.node? x with
      | .error e => Work.fail [text "cannot stat ", Quoting.always x, text ": ", reason e]
      | .ok node => pure (some (match node.content with
        | .file data => data.size
        | _ => 0))
  let (way, n) := c.size.getD (.atLeast, 0)
  let n := if c.inBlocks then n * Resizing.blockSize else n
  let goal (size : Nat) : Nat := Resizing.goal way n (like.getD size)
  for x in operands do
    let access : Access := { readable := false, writable := true, creates := c.creates }
    match ← Work.act (Act.openPath x access) with
    | .error e =>
      if c.creates || e ≠ Errno.noEntry then
        Work.warn [text "cannot open ", Quoting.always x, text " for writing: ", reason e]
    | .ok fd =>
      if let some (size, e) ← Work.act (Act.resize fd goal) then
        Work.warn [text "failed to truncate ", Quoting.always x, text " at ", Shell.decimal size,
          text " bytes: ", reason e]
      Work.act (Act.close fd)

end JarLauncher.Tool
