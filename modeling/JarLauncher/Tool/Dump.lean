import JarLauncher.Shell.Format
import JarLauncher.Text.Binary
import JarLauncher.Tool.Copy
import JarLauncher.Tool.Input

/-! Octets shown as numbers or characters, in rows with their places. -/

namespace JarLauncher.Tool

open Unix
open Shell (text newline)
open Text (Binary)

namespace Dump

/-- how the octets of a row are shown -/
inductive Form where
  | characters
  | names
  | number (base size : Nat) (signed : Bool)
  | floating (b : Binary)
  /-- with the octets as characters at the end of the row -/
  | trailed (f : Form)

structure Choice where
  base : Option Nat := some 8
  forms : List Form := []
  all : Bool := false
  limit : Option Nat := none
  skipped : Nat := 0
  width : Option Int := none
  /-- the first octet of a number counts most -/
  isBig : Bool := false
  /-- only texts are shown that are so long -/
  texts : Option Nat := none
  /-- what was asked for is not all of the older kind -/
  isModern : Bool := false
  traditional : Bool := false
  /-- a description of forms was wrong -/
  isWrong : Bool := false

def fill (width : Nat) (sign : UInt8) (bs : Bytes) : Bytes :=
  List.replicate (width - bs.length) sign ++ bs

/-- the digits that a number of so many octets takes at most -/
def digitCount (base size : Nat) (signed : Bool) : Nat :=
  let greatest := if signed then Nat.pow 2 (8 * size - 1) else Nat.pow 2 (8 * size) - 1
  (Nat.toDigits base greatest).length + if signed then 1 else 0

def value (bs : Bytes) : Nat := bs.foldr (fun b n => n * 256 + b.toNat) 0

def controlNames : List String :=
  ["nul", "soh", "stx", "etx", "eot", "enq", "ack", "bel", "bs", "ht", "nl", "vt", "ff", "cr", "so",
   "si", "dle", "dc1", "dc2", "dc3", "dc4", "nak", "syn", "etb", "can", "em", "sub", "esc", "fs",
   "gs", "rs", "us", "sp"]

def character (b : UInt8) : Bytes :=
  if b = 0 then [92, 48]
  else if 7 ≤ b ∧ b ≤ 13 then 92 :: Quoting.escaped b
  else if Quoting.isPrintable b then [b]
  else [b / 64 + 48, b / 8 % 8 + 48, b % 8 + 48]

def nameOf (b : UInt8) : Bytes :=
  let b := b % 128
  if b = 127 then text "del" else if b ≤ 32 then text (controlNames.getD b.toNat "") else [b]

def Form.size : Form → Nat
  | .number _ size _ => size
  | .floating b => b.size
  | .trailed f => f.size
  | _ => 1

/-- how wide one number or character is -/
def Form.width : Form → Nat
  | .number base size signed => digitCount base size signed
  | .floating b => b.width
  | .trailed f => f.width
  | _ => 3

/-- some octets as they are shown, which are not turned round for characters -/
def Form.show_ (f : Form) (isBig : Bool) (bs : Bytes) : Bytes :=
  let n := value (if isBig then bs.reverse else bs)
  match f with
  | .characters => character (bs.headD 0)
  | .names => nameOf (bs.headD 0)
  | .trailed f => f.show_ isBig bs
  | .floating b => b.shortest n
  | .number base size signed =>
    if signed then text (toString (Int.bmod n (Nat.pow 2 (8 * size))))
    else
      let ds := Shell.Format.digitsIn base n
      if base = 10 then ds else fill (digitCount base size false) 48 ds

def chunks (n : Nat) : Nat → Bytes → List Bytes
  | 0, _ => []
  | _, [] => []
  | fuel + 1, bs => bs.take n :: chunks n fuel (bs.drop n)

/-- a chunk that is short, with zeros behind it -/
def filled (size : Nat) (bs : Bytes) : Bytes := bs ++ List.replicate (size - bs.length) 0

/-- one row in one form, where a full row has `room`; the blanks are dealt out from the left -/
def row (c : Choice) (room width : Nat) (f : Form) (bs : Bytes) : Bytes :=
  let count := width / f.size
  let blanks := room - f.width * count
  let cells := (chunks f.size bs.length bs).zipIdx.flatMap fun (piece, j) =>
    let share := blanks * (count - j) / count - blanks * (count - j - 1) / count
    fill (share + f.width) 32 (f.show_ c.isBig (filled f.size piece))
  match f with
  | .trailed _ => cells ++ List.replicate (room - cells.length) 32 ++ text "  >" ++
      bs.map (fun b => if Quoting.isPrintable b then b else 46) ++ text "<"
  | _ => cells

def address (c : Choice) (n : Nat) : Bytes :=
  match c.base with
  | none => []
  | some base => fill (if base = 16 then 6 else 7) 48 (Shell.Format.digitsIn base n)

/-- the room that the widest form needs for a full row -/
def roomOf (c : Choice) (width : Nat) : Nat :=
  (c.forms.map fun f => (f.width + 1) * (width / f.size)).foldl max 0

/-- the first of the sizes that holds whole numbers of all forms -/
def common (c : Choice) : Nat := c.forms.foldl (fun n f => Nat.lcm n f.size) 1

def isSize (n : Nat) : Bool := n = 1 || n = 2 || n = 4 || n = 8

/-- the size in front of a description, by one of some letters or by digits; none if the digits are
too many -/
def sizeOf (letters : List (UInt8 × Nat)) (usual : Nat) (rest : Bytes) : Option Nat × Bytes :=
  match letters.find? fun x => some x.1 = rest.head? with
  | some (_, n) => (some n, rest.drop 1)
  | none =>
    let (ds, more) := rest.span Shell.isDigit
    let n := if ds = [] then usual else Shell.natOf ds
    (if 2147483647 < n then none else some n, more)

/-- the form that a letter and what follows it ask for, and the rest of the description -/
def form (whole : Bytes) (b : UInt8) (rest : Bytes) : Work (Option (Form × Bytes)) := do
  let refuse (words : List Bytes) : Work (Option (Form × Bytes)) := do
    Work.complain words
    return none
  let described := [text "invalid type string ", Quoting.plain whole]
  let missing (size : Nat) (kind : String) : Work (Option (Form × Bytes)) :=
    refuse (described ++
      [text ";\nthis system doesn't provide a ", Shell.decimal size, text ("-byte " ++ kind)])
  let sized (base : Nat) (signed : Bool) : Work (Option (Form × Bytes)) := do
    match sizeOf [(67, 1), (83, 2), (73, 4), (76, 8)] 4 rest with
    | (none, _) => refuse described
    | (some size, rest) =>
      if isSize size then return some (.number base size signed, rest)
      else missing size "integral type"
  match Shell.chr b with
  | 'a' => return some (.names, rest)
  | 'c' => return some (.characters, rest)
  | 'd' => sized 10 true
  | 'o' => sized 8 false
  | 'u' => sized 10 false
  | 'x' => sized 16 false
  | 'f' =>
    match sizeOf [(70, 4), (68, 8), (76, 16)] 8 rest with
    | (none, _) => refuse described
    | (some size, rest) =>
      match [Binary.single, Binary.double, Binary.extended].find? fun b => b.size = size with
      | some b => return some (.floating b, rest)
      | none => missing size "floating point type"
  | _ => refuse [text "invalid character '", [b], text "' in type string ", Quoting.plain whole]

/-- the forms that a description such as `x1z` or `cx2` asks for; none if it is wrong -/
def forms (whole : Bytes) : Nat → Bytes → Work (Option (List Form))
  | 0, _ => return some []
  | _, [] => return some []
  | fuel + 1, b :: rest => do
    match ← form whole b rest with
    | none => return none
    | some (f, 122 :: rest) => return (← forms whole fuel rest).map (.trailed f :: ·)
    | some (f, rest) => return (← forms whole fuel rest).map (f :: ·)

def menu : Menu :=
  { letters := "A:aBbcDdeFfHhIij:LlN:OoS:st:vw::Xx"
    words := [valued "skip-bytes" 'j', valued "address-radix" 'A', valued "read-bytes" 'N',
      valued "format" 't', flag "output-duplicates" 'v', ⟨"strings", .optional, 'S'⟩,
      flag "traditional" '@', ⟨"width", .optional, 'w'⟩, valued "endian" 'E'] }

/-- the count of an option, which has no unit if `units` is empty -/
def count (units : String) (based : Bool) (g : Given) : Work Nat := do
  let value := g.value.getD []
  let word := if g.isWord then
      (menu.words.find? fun w => w.letter = g.letter).map fun w => "--" ++ w.word
    else none
  let option := word.getD ("-" ++ String.ofList [g.letter])
  match Count.scaled units value based with
  | .ok n => return n
  | .error .large =>
    Work.fail [text (option ++ " argument "), Quoting.plain value, text " too large"]
  | .error .meaningless =>
    let isRead := (Count.scaled "" (value.takeWhile Shell.isDigit)).toOption.isSome
    Work.fail [text ((if isRead then "invalid suffix in " else "invalid ") ++ option ++
      " argument "), Quoting.plain value]

def units : String := "bEGKkMmPQRTYZ"

def take (c : Choice) (g : Given) : Work Choice := do
  let value := g.value.getD []
  let add (f : Form) : Work Choice := return { c with forms := c.forms ++ [f] }
  let modern := { c with isModern := true }
  match g.letter with
  | 'A' =>
    match Shell.chr (value.headD 0) with
    | 'o' => return { modern with base := some 8 }
    | 'd' => return { modern with base := some 10 }
    | 'x' => return { modern with base := some 16 }
    | 'n' => return { modern with base := none }
    | _ => Work.fail [text "invalid output address radix '",
      if value = [] then [0] else value.take 1,
        text "'; it must be one character from [doxn]"]
  | 'j' => return { modern with skipped := ← count units true g }
  | 'N' => return { modern with limit := some (← count units true g) }
  | 'S' => return { modern with texts := some (← if g.value = none then pure 3 else
      count units true g) }
  | 't' =>
    match ← forms value (value.length + 1) value with
    | some fs => return { modern with forms := c.forms ++ fs }
    | none => return { modern with isWrong := true }
  | 'v' => return { modern with all := true }
  | 'w' => return { modern with width := some (← if g.value = none then pure 32 else
      count "" false g) }
  | '@' => return { c with traditional := true }
  | 'E' =>
    let isBig ← Work.choose "--endian" [("little", false), ("big", true)] value
    return { c with isBig := isBig }
  | 'a' => add .names
  | 'b' => add (.number 8 1 false)
  | 'c' => add .characters
  | 'd' => add (.number 10 2 false)
  | 'e' | 'F' => add (.floating .double)
  | 'f' => add (.floating .single)
  | 'i' => add (.number 10 4 true)
  | 'I' | 'l' | 'L' => add (.number 10 8 true)
  | 'o' | 'B' => add (.number 8 2 false)
  | 's' => add (.number 10 2 true)
  | 'x' | 'h' => add (.number 16 2 false)
  | 'D' => add (.number 10 4 false)
  | 'O' => add (.number 8 4 false)
  | 'H' | 'X' => add (.number 16 4 false)
  | _ => return c

/-- a place of the older kind: octal, or hexadecimal behind `0x`, and maybe a unit -/
def place? (bs : Bytes) : Option Nat :=
  let bs := if bs.head? = some 43 then bs.drop 1 else bs
  let isHex : Bool :=
    bs.head? = some 48 && ((bs.drop 1).head? = some 120 || (bs.drop 1).head? = some 88)
  let digits := if isHex ∨ bs = [] then bs else 48 :: bs
  (Count.scaled "Bb" digits true).toOption

/-- the operands without a place of the older kind, and that place -/
def olderPlace (c : Choice) (operands : List Bytes) : Work (List Bytes × Option Nat) := do
  if c.isModern && !c.traditional then return (operands, none)
  let starts (x : Bytes) (digit : Bool) : Bool :=
    c.traditional || x.head? = some 43 || (digit && x.head?.any Shell.isDigit)
  let (left, place) := match operands with
    | [x] => if starts x false then (match place? x with
        | some n => ([], some n)
        | none => (operands, none)) else (operands, none)
    | [x, y] => if starts y true then (match place? y with
        | some n => ([x], some n)
        | none => (operands, none)) else (operands, none)
    | _ => (operands, none)
  if let (true, _ :: extra :: _) := (c.traditional, left) then
    Work.complain [text "extra operand ", Quoting.plain extra]
    Work.misuse [text "compatibility mode supports at most one file"]
  return (left, place)

/-- all operands one after another -/
structure Chain where
  /-- those that were not opened -/
  left : List Bytes
  current : Option (Bytes × Source)

namespace Chain

/-- the next operand that can be opened -/
def next (c : Chain) : Work Chain :=
  Work.loop c.left fun left => do
    match left with
    | [] => return .error ⟨[], none⟩
    | x :: left =>
      match ← Work.openOperand x with
      | .error e =>
        Work.warn [Quoting.name x, text ": ", reason e]
        return .ok left
      | .ok fd => return .error ⟨left, some (x, { fd := fd })⟩

/-- so many octets, fewer only at the end of all -/
def take (c : Chain) (count : Nat) (exact : Bool) : Work (ByteArray × Chain) :=
  Work.loop (ByteArray.empty, c) fun (done, c) => do
    let missing := count - done.size
    match c.current with
    | none => return .error (done, c)
    | some (x, s) =>
      if missing = 0 then return .error (done, c)
      if 0 < s.size then
        let piece := s.held.extract s.used (s.used + missing)
        let s := { s with used := s.used + piece.size }
        return .ok (done ++ piece, { c with current := some (x, s) })
      let fault : Option (Option Int) × Source ← match ←
          { s with room := if exact then missing else 4096 }.fill with
        | .error e => pure (some (some e), s)
        | .ok s => pure (if s.isDry then some none else none, s)
      match fault with
      | (none, s) => return .ok (done, { c with current := some (x, s) })
      | (some e, _) =>
        if let some e := e then
          let shown := if x = Work.dash then text "standard input" else Quoting.name x
          Work.warn [shown, text ": ", reason e]
        Work.closeOperand x s.fd
        return .ok (done, ← c.next)

end Chain

/-- where a dump is: the row before, and whether it was told that rows repeat -/
structure Place where
  at_ : Nat
  last : Option ByteArray := none
  starred : Bool := false

/-- one row; a row that repeats the one before is left out, with a star for all -/
def putRow (c : Choice) (room width : Nat) (p : Place) (piece : ByteArray) : Work Place := do
  let after := p.at_ + piece.size
  if !c.all && piece.size = width && p.last == some piece then
    if !p.starred then Work.putLine [42]
    return { p with at_ := after, starred := true }
  for (f, i) in c.forms.zipIdx do
    let start := address c p.at_
    Work.putLine ((if i = 0 then start else List.replicate start.length 32) ++
      row c room width f piece.toList)
  return ⟨after, some piece, false⟩

/-- the width of a row -/
def rowWidth (c : Choice) : Work Nat := do
  let least := common c
  match c.width with
  | none => return if least < 16 then least * (16 / least) else least
  | some width =>
    if width ≠ 0 ∧ width % least = 0 then return width.toNat
    Work.complain [text "warning: invalid width ", text (toString width), text "; using ",
      Shell.decimal least, text " instead"]
    return least

/-- all rows, and where they end -/
def rows (c : Choice) (chain : Chain) : Work Unit := do
  let width ← rowWidth c
  let room := roomOf c width
  let stop := c.limit.map (c.skipped + ·)
  let at_ ← Work.loop (({ at_ := c.skipped } : Place), chain) fun (p, chain) => do
    let wanted := match stop with
      | some stop => min width (stop - p.at_)
      | none => width
    let (piece, chain) ← chain.take wanted stop.isSome
    if piece.isEmpty then return .error p.at_
    let p ← putRow c room width p piece
    if piece.size < width then return .error p.at_
    return .ok (p, chain)
  if c.base.isSome then Work.putLine (address c at_)

/-- the texts among octets that end with a zero and are so long, with their places -/
def textsFrom (least : Nat) : Nat → Bytes → Bytes → List (Nat × Bytes)
  | _, _, [] => []
  | at_, held, b :: rest =>
    if Quoting.isPrintable b then textsFrom least (at_ + 1) (b :: held) rest
    else
      let others := textsFrom least (at_ + 1) [] rest
      if b = 0 ∧ least ≤ held.length then (at_ - held.length, held.reverse) :: others else others

def texts (c : Choice) (least : Nat) (chain : Chain) : Work Unit := do
  let (data, _) ← chain.take (c.limit.getD Act.patience) c.limit.isSome
  let held := data.toList
  let held := if c.limit = some data.size then held ++ [0] else held
  for (at_, bs) in textsFrom least c.skipped [] held do
    Work.putLine ((if c.base.isSome then address c at_ ++ [32] else []) ++ bs)

end Dump

def od : Routine := fun args => do
  let (c, operands) ← Work.options Dump.menu args { : Dump.Choice } Dump.take
  if c.isWrong then throw (← get).failure
  if c.texts.isSome ∧ !c.forms.isEmpty then
    Work.fail [text "no type may be specified when dumping strings"]
  let (operands, place) ← Dump.olderPlace c operands
  let c := { c with skipped := place.getD c.skipped }
  let c := if c.forms.isEmpty then { c with forms := [.number 8 2 false] } else c
  let chain ← (Dump.Chain.mk (Work.orInput operands) none).next
  if chain.current.isNone then return
  let (before, chain) ← chain.take c.skipped c.limit.isSome
  if before.size < c.skipped then Work.fail [text "cannot skip past end of combined input"]
  match c.texts with
  | some least => Dump.texts c least chain
  | none => Dump.rows c chain

end JarLauncher.Tool
