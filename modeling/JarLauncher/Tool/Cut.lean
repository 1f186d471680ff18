import JarLauncher.Tool.Count
import JarLauncher.Tool.Input
import JarLauncher.Tool.Option

/-! Parts of lines. -/

namespace JarLauncher.Tool

open Unix
open Shell (text newline)

namespace Cut

/-- which positions are wanted: ranges from one place to another, or to the end -/
abbrev Ranges := List (Nat × Option Nat)

def wants (rs : Ranges) (n : Nat) : Bool := rs.any fun (lo, hi) => lo ≤ n && hi.all (n ≤ ·)

inductive Part where
  | octets
  | fields
  deriving DecidableEq

structure Choice where
  part : Option (Part × Bytes) := none
  delimiter : Option UInt8 := none
  joined : Option Bytes := none
  onlyDelimited : Bool := false
  others : Bool := false
  nulEnded : Bool := false

/-- a range as it is read -/
structure Reading where
  /-- the digits so far -/
  digits : Bytes := []
  /-- what stood in front of the dash, if there was one -/
  low : Option Bytes := none

def tooLarge {α : Type} (part : Part) (digits : Bytes) : Work α :=
  Work.misuse [text (if part = .fields then "field number " else "byte/character offset "),
    Quoting.plain digits, text " is too large"]

def unnumbered {α : Type} (part : Part) : Work α :=
  Work.misuse [text (if part = .fields then "fields are numbered from 1"
    else "byte/character positions are numbered from 1")]

/-- the range at its end -/
def Reading.range (r : Reading) (part : Part) : Work (Nat × Option Nat) := do
  let n := Shell.natOf r.digits
  match r.low with
  | none =>
    if n = 0 then unnumbered part
    return (n, some n)
  | some [] =>
    if r.digits = [] then Work.misuse [text "invalid range with no endpoint: -"]
    if n = 0 then Work.misuse [text "invalid decreasing range"]
    return (1, some n)
  | some low =>
    let lo := Shell.natOf low
    if r.digits = [] then return (lo, none)
    if n < lo then Work.misuse [text "invalid decreasing range"]
    return (lo, some n)

/-- the ranges of a list, between commas or blanks -/
def rangesFrom (part : Part) (r : Reading) : Bytes → Work Ranges
  | [] => return [← r.range part]
  | b :: rest => do
    if b = 45 then
      if r.low.isSome then
        Work.misuse [text (if part = .fields then "invalid field range"
          else "invalid byte or character range")]
      if r.digits ≠ [] ∧ Shell.natOf r.digits = 0 then unnumbered part
      rangesFrom part { low := some r.digits } rest
    else if b = 44 ∨ Shell.isBlank b then
      let range ← r.range part
      return range :: (← rangesFrom part {} rest)
    else if Shell.isDigit b then
      let digits := r.digits ++ [b]
      if Count.greatest ≤ Shell.natOf digits then
        tooLarge part (digits ++ rest.takeWhile Shell.isDigit)
      rangesFrom part { r with digits := digits } rest
    else
      Work.misuse [text (if part = .fields then "invalid field value "
        else "invalid byte/character position "), Quoting.plain (b :: rest)]

def ranges (part : Part) (list : Bytes) : Work Ranges := rangesFrom part {} list

/-- the wanted elements, counted from 1 -/
def pick {α : Type} (rs : Ranges) (others : Bool) (xs : List α) : List α :=
  (xs.zipIdx 1).filterMap fun (x, n) => if wants rs n != others then some x else none

def line (c : Choice) (part : Part) (rs : Ranges) (bs : Bytes) : Option Bytes :=
  match part with
  | .octets =>
    match c.joined with
    | none => some (pick rs c.others bs)
    | some sep =>
      let runs := (bs.zipIdx 1).foldr (fun (b, n) (acc : List Bytes × Bool) =>
        if wants rs n != c.others then
          match acc with
          | (run :: more, true) => ((b :: run) :: more, true)
          | (runs, _) => ([b] :: runs, true)
        else (acc.1, false)) ([], false)
      some (runs.1.intersperse sep).flatten
  | .fields =>
    let delimiter := c.delimiter.getD 9
    if !bs.contains delimiter then if c.onlyDelimited then none else some bs
    else
      some ((pick rs c.others (Path.splitOn delimiter bs)).intersperse
        (c.joined.getD [delimiter])).flatten

def take (c : Choice) (g : Given) : Work Choice := do
  let value := g.value.getD []
  let list (part : Part) : Work Choice := do
    if c.part.isSome then Work.misuse [text "only one list may be specified"]
    return { c with part := some (part, value) }
  match g.letter with
  | 'b' | 'c' => list .octets
  | 'f' => list .fields
  | 'd' =>
    match value with
    | [] => return { c with delimiter := some 0 }
    | [b] => return { c with delimiter := some b }
    | _ => Work.misuse [text "the delimiter must be a single character"]
  | 's' => return { c with onlyDelimited := true }
  | 'o' => return { c with joined := some value }
  | 'C' => return { c with others := true }
  | 'z' => return { c with nulEnded := true }
  | _ => return c

end Cut

def cut : Routine := fun args => do
  let (c, operands) ← Work.options { letters := "b:c:d:f:nsz", words := [valued "bytes" 'b',
    valued "characters" 'c', valued "fields" 'f', valued "delimiter" 'd', flag "only-delimited" 's',
    valued "output-delimiter" 'o', flag "complement" 'C', flag "zero-terminated" 'z'] } args
    { : Cut.Choice } Cut.take
  match c.part with
  | none => Work.misuse [text "you must specify a list of bytes, characters, or fields"]
  | some (part, list) =>
    if part ≠ .fields ∧ c.delimiter.isSome then
      Work.misuse [text "an input delimiter may be specified only when operating on fields"]
    if part ≠ .fields ∧ c.onlyDelimited then
      Work.misuse [text "suppressing non-delimited lines makes sense\n\tonly when ",
        text "operating on fields"]
    let rs ← Cut.ranges part list
    let ending := if c.nulEnded then 0 else newline
    Work.eachLineOf operands ending () fun () l => do
      if let some shown := Cut.line c part rs l.octets then Work.put (shown ++ [ending])
    Work.closeInput operands "-"

end JarLauncher.Tool
