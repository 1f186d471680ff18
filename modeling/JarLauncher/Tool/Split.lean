import JarLauncher.Tool.Copy
import JarLauncher.Tool.Input
import JarLauncher.Text.Radix
import JarLauncher.Tool.Count
import JarLauncher.Tool.Sorting.Order

/-! The tool that cuts a file into several: after so many lines or octets, or into so many parts. -/

namespace JarLauncher.Tool

open Unix
open Shell (text newline)

namespace Split

/-- how a file is cut into a number of parts -/
inductive Kind where
  | octets
  /-- a line belongs to the part that it begins in -/
  | lines
  /-- the lines are dealt out in turn -/
  | dealt
  deriving DecidableEq

inductive Way where
  | lines (n : Nat)
  | octets (n : Nat)
  /-- whole lines, as many as fit into so many octets -/
  | linesWithin (n : Nat)
  /-- a number of parts, of which one may be wanted only -/
  | parts (kind : Kind) (count : Nat) (wanted : Option Nat)

structure Choice where
  way : Option Way := none
  digits : Bytes := (List.range 26).map fun i => (97 + i).toUInt8
  /-- how long the endings of names are, if that was said -/
  length : Option Nat := none
  /-- the number that names begin with, if it was said -/
  start : Option Nat := none
  ending : Bytes := []
  noEmpty : Bool := false
  verbose : Bool := false
  separator : UInt8 := newline

def setWay (c : Choice) (w : Way) : Work Choice := do
  if c.way.isSome then Work.misuse [text "cannot split in more than one way"]
  return { c with way := some w }

/-- a number that is not zero -/
def positive (what : String) (bs : Bytes) : Work Nat := do
  match Count.scaled "bEGKkMmPQRTYZ" bs with
  | .ok (n + 1) => return n + 1
  | .error .large => return Act.patience
  | _ => Work.fail [text ("invalid number of " ++ what ++ ": "), Quoting.plain bs]

def partsOption (value : Bytes) : Work Way := do
  let (kind, rest) : Kind × Bytes := match value with
    | 108 :: 47 :: rest => (.lines, rest)
    | 114 :: 47 :: rest => (.dealt, rest)
    | rest => (.octets, rest)
  match Path.splitOn 47 rest with
  | [k, n] =>
    match Shell.natOf? k, Shell.natOf? n with
    | some k, some n =>
      if n = 0 then Work.fail [text "invalid number of chunks: ", Quoting.plain rest]
      if k = 0 ∨ n < k then
        Work.fail [text "invalid chunk number: ", Quoting.plain (Shell.decimal k)]
      return .parts kind n (some k)
    | _, _ => Work.fail [text "invalid number of chunks: ", Quoting.plain rest]
  | _ => return .parts kind (← positive "chunks" rest) none

def startOption (c : Choice) (base : Nat) (value : Bytes) : Work (Option Nat) := do
  match value.mapM fun b => (c.digits.take base).idxOf? b with
  | some ds => return some (ds.foldl (fun n d => n * base + d) 0)
  | none => Work.misuse [Quoting.plain value, text ": invalid start value for ",
      text (if base = 16 then "hexadecimal suffix" else "numerical suffix")]

def hexDigits : Bytes := text "0123456789abcdef"

def take (c : Choice) (g : Given) : Work Choice := do
  let value := g.value.getD []
  match g.letter with
  | 'l' => setWay c (.lines (← positive "lines" value))
  | 'b' => setWay c (.octets (← positive "bytes" value))
  | 'C' => setWay c (.linesWithin (← positive "lines" value))
  | 'n' => setWay c (← partsOption value)
  | 'a' =>
    match Shell.natOf? value with
    | some n => return { c with length := if n = 0 then none else some n }
    | none => Work.fail [text "invalid suffix length: ", Quoting.plain value]
  | 'd' | 'x' =>
    let base := if g.letter = 'x' then 16 else 10
    let c := { c with digits := hexDigits.take base }
    match g.value with
    | some value => return { c with start := ← startOption c base value }
    | none => return c
  | 's' =>
    if value.contains Path.slash then
      Work.misuse [text "invalid suffix ", Quoting.plain value,
        text ", contains directory separator"]
    return { c with ending := value }
  | 'e' => return { c with noEmpty := true }
  | 'v' => return { c with verbose := true }
  | 't' =>
    match value with
    | [b] => return { c with separator := b }
    | [92, 48] => return { c with separator := 0 }
    | [] => Work.fail [text "empty record separator"]
    | _ => Work.fail [text "multi-character separator ", Quoting.plain value]
  | _ => return c

/-- a number in so many digits -/
def inDigits (digits : Bytes) : Nat → Nat → Bytes
  | 0, _ => []
  | length + 1, n => inDigits digits length (n / digits.length) ++
      [digits.getD (n % digits.length) 0]

/-- The ending of a name, where endings grow: those that begin with the last digit have one digit
more behind it than the ones before. -/
def growing (digits : Bytes) : Nat → Nat → Nat → Bytes
  | 0, length, n => inDigits digits length n
  | fuel + 1, length, n =>
    let count := (digits.length - 1) * Nat.pow digits.length (length - 1)
    if n < count then inDigits digits length n
    else digits.getLast?.toList ++ growing digits fuel (length + 1) (n - count)

/-- how many digits the endings of so many names need -/
def digitsFor (base : Nat) : Nat → Nat → Nat → Nat
  | 0, _, length => length
  | fuel + 1, n, length =>
    if n < Nat.pow base length then length else digitsFor base fuel n (length + 1)

/-- the ending of the name of a part, if there are endings enough -/
def suffix? (c : Choice) (count : Option Nat) (i : Nat) : Option Bytes :=
  let base := c.digits.length
  let fixed (length n : Nat) : Option Bytes :=
    if n < Nat.pow base length then some (inDigits c.digits length n) else none
  match c.length, c.start, count with
  | some length, start, _ => fixed length (start.getD 0 + i)
  | none, some start, count =>
    fixed (digitsFor base 64 (start + count.getD 1 - 1) 2) (start + i)
  | none, none, some count => fixed (digitsFor base 64 (count - 1) 2) i
  | none, none, none => some (growing c.digits 64 2 i)

/-- the lines of octets, each with its end -/
def linesFrom (separator : UInt8) : Bytes → Bytes → List Bytes → List Bytes
  | [], [], done => done.reverse
  | [], line, done => (line.reverse :: done).reverse
  | b :: rest, line, done =>
    if b = separator then linesFrom separator rest [] ((b :: line).reverse :: done)
    else linesFrom separator rest (b :: line) done

/-- pieces of whole lines, as far as they fit -/
def within (size : Nat) (separator : UInt8) : Nat → Bytes → List Bytes
  | 0, _ => []
  | _, [] => []
  | fuel + 1, bs =>
    let window := bs.take size
    let whole := (window.reverse.dropWhile (· ≠ separator)).length
    let count := if window.length = bs.length ∨ whole = 0 then window.length else whole
    bs.take count :: within size separator fuel (bs.drop count)

/-- the parts of a file that is cut into a number of them -/
def inParts (kind : Kind) (count : Nat) (separator : UInt8) (bs : Bytes) : List Bytes :=
  let size := bs.length
  let bound (k : Nat) : Nat := k * (size / count) + min k (size % count)
  match kind with
  | .octets => (List.range count).map fun k => (bs.take (bound (k + 1))).drop (bound k)
  | .lines =>
    let lines := linesFrom separator bs [] []
    let placed := (lines.foldl (fun (acc : List (Nat × Bytes) × Nat) line =>
      ((acc.2, line) :: acc.1, acc.2 + line.length)) ([], 0)).1.reverse
    (List.range count).map fun k =>
      (placed.filter fun x => bound k ≤ x.1 && x.1 < bound (k + 1)).flatMap Prod.snd
  | .dealt =>
    let lines := (linesFrom separator bs [] []).zipIdx
    (List.range count).map fun k => (lines.filter fun x => x.2 % count = k).flatMap Prod.fst

def menu : Menu :=
  { letters := "l:b:C:n:a:dxet:u"
    words := [valued "lines" 'l', valued "bytes" 'b', valued "line-bytes" 'C', valued "number" 'n',
      valued "suffix-length" 'a', ⟨"numeric-suffixes", .optional, 'd'⟩,
      ⟨"hex-suffixes", .optional, 'x'⟩, valued "additional-suffix" 's',
      flag "elide-empty-files" 'e',
      flag "verbose" 'v', valued "separator" 't', flag "unbuffered" 'u'] }

/-- put a part into a file of its own -/
def putPart (c : Choice) (start : Bytes) (count : Option Nat) (part : Bytes) (i : Nat) :
    Work Unit := do
  match suffix? c count i with
  | none => Work.fail [text "output file suffixes exhausted"]
  | some suffix =>
    let path := start ++ suffix ++ c.ending
    if c.verbose then Work.putLine (text "creating file " ++ Quoting.always path)
    match ← Work.act (Act.openPath path Access.write) with
    | .error e => Work.fail [Quoting.name path, text ": ", reason e]
    | .ok fd =>
      if let some e ← Work.act (Act.writeAll fd (Act.octets part)) then
        Work.fail [Quoting.name path, text ": ", reason e]
      Work.act (Act.close fd)

end Split

def split : Routine := fun args => do
  let isCount (a : Bytes) : Bool := match a with
    | 45 :: d :: ds => (d :: ds).all Shell.isDigit
    | _ => false
  let args := args.flatMap fun a => if isCount a then [text "-l", a.drop 1] else [a]
  let (c, operands) ← Work.options Split.menu args { : Split.Choice } Split.take
  if let _ :: _ :: extra :: _ := operands then Work.extraOperand extra
  let x := operands.headD Work.dash
  let start := operands.getD 1 (text "x")
  match ← Work.openOperand x with
  | .error e => Work.fail [text "cannot open ", Quoting.always x, text " for reading: ", reason e]
  | .ok fd =>
    match ← Work.readAll fd with
    | .error e => Work.fail [Quoting.name x, text ": ", reason e]
    | .ok data =>
      let bs := data.toList
      match c.way.getD (.lines 1000) with
      | .lines n =>
        let lines := Split.linesFrom c.separator bs [] []
        for (part, i) in (Text.Radix.pieces n lines.length lines).zipIdx do
          Split.putPart c start none part.flatten i
      | .octets n =>
        for (part, i) in (Text.Radix.pieces n bs.length bs).zipIdx do
          Split.putPart c start none part i
      | .linesWithin n =>
        for (part, i) in (Split.within n c.separator (bs.length + 1) bs).zipIdx do
          Split.putPart c start none part i
      | .parts kind count (some k) =>
        Work.put ((Split.inParts kind count c.separator bs).getD (k - 1) [])
      | .parts kind count none =>
        let parts := Split.inParts kind count c.separator bs
        let parts := if c.noEmpty then parts.filter (· ≠ []) else parts
        for (part, i) in parts.zipIdx do
          Split.putPart c start (some count) part i

end JarLauncher.Tool
