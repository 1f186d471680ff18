import JarLauncher.Shell.Arithmetic
import JarLauncher.Shell.Field
import JarLauncher.Shell.Variable
import JarLauncher.Unix.Account

/-! Expanding words: parameters, the output of commands, arithmetic and home directories, then
fields and file names. -/

namespace JarLauncher.Shell

open Unix

/-- how the parts of a word are expanded -/
structure Manner where
  /-- in double quotes -/
  quoted : Bool := false
  /-- into fields -/
  fields : Bool := false
  /-- home directories may stand after colons -/
  colons : Bool := false
  /-- the word is the argument of a parameter; its own text is split too -/
  argument : Bool := false

namespace Expansion

/-- octets that stand for themselves when they come from an expansion -/
def guarded (quoted : Bool) (b : UInt8) : Bool :=
  Mode.isMark b || (quoted && (Mode.isPatternSign b || b == 92))

/-- the name of a user after a tilde, as far as it goes -/
def userName? (colons : Bool) : List Part → Option Bytes
  | [] => some []
  | .octet b :: rest =>
    if b = 47 ∨ (colons ∧ b = 58) then some []
    else (userName? colons rest).map (b :: ·)
  | _ => none

/-- the home directory of a user, and how much of the text names the user -/
def home? (m : Memory) (colons : Bool) (rest : List Part) : Option (Bytes × Nat) := do
  let user ← userName? colons rest
  let dir ← if user = [] then m.valueOf "HOME"
    else (Account.ofName? user).map fun a => text a.home
  return (dir, user.length)

/-- arguments with a separator between each two, as cells, the last one first -/
def joined (separator : Option UInt8) (escaped : UInt8 → Bool) (args : List Bytes) : List Cell :=
  let between : List Cell := match separator with
    | some b => [.octet b (escaped b)]
    | none => []
  ((args.map fun a => (Cell.ofBytes a escaped).reverse).intersperse between).flatten.reverse

/-- the letters of the options, as `$-` shows them -/
def optionLetters : List Char := "pubaCVEvxsnmiIfe".toList

/-- the value of a parameter as cells, the last one first -/
def value? (m : Memory) (w : Manner) (name : Bytes) : Option (List Cell) :=
  let escaped := guarded w.quoted
  let all (separator : Option UInt8) : Option (List Cell) := some (joined separator escaped m.args)
  let first : Option UInt8 := match m.valueOf "IFS" with
    | some ifs => ifs.head?
    | none => some 32
  let spread : Option UInt8 := if (m.valueOf "IFS").isSome then some 0 else some 32
  let plain (bs : Bytes) : Option (List Cell) := some (Cell.ofBytes bs escaped)
  match name.map chr with
  | ['$'] => plain (decimal m.mainPid)
  | ['?'] => plain (decimal m.status)
  | ['#'] => plain (decimal m.args.length)
  | ['!'] => m.lastJob.bind fun p => plain (decimal p)
  | ['-'] => plain (text (String.ofList (optionLetters.filter m.options.contains)))
  | ['@'] =>
    if w.quoted && w.fields then all (some 0)
    else if w.fields then all spread
    else all first
  | ['*'] => if w.fields && !w.quoted then all spread else all first
  | _ =>
    match natOf? name with
    | some 0 => plain m.name
    | some (n + 1) => (m.args[n]?).bind plain
    | none => (m.value? name).bind plain

/-- the value of a parameter with what stands around it -/
def record (m : Memory) (w : Manner) (name : Bytes) (e : Expanded) (cells : List Cell) : Expanded :=
  if !w.quoted then e.add .split cells
  else if name = [64] ∧ m.args ≠ [] then e.add .arguments cells
  else e.add .fixed cells

def octets (cells : List Cell) : Bytes := cells.reverse.filterMap Cell.octet?

/-- the octets up to the first NUL -/
def upToNul (bs : Bytes) : Bytes := bs.takeWhile (· ≠ 0)

/-- how much of a value is cut, or left if it is cut at the end -/
def cut? (op : ParamOp) (p : Pattern) (bs : Bytes) : Option Nat :=
  let all := List.range (bs.length + 1)
  let near := List.range ((upToNul bs).length + 1)
  let front (n : Nat) : Bool := p.accepts (upToNul (bs.take n))
  let back (n : Nat) : Bool := p.accepts (upToNul (bs.drop n))
  match op with
  | .cutPrefix false => near.find? front
  | .cutPrefix true => all.reverse.find? front
  | .cutSuffix true => near.find? back
  | _ => all.reverse.find? back

def unset {α : Type} (name message : Bytes) : Sh α := Sh.fail [name, text ": ", message]

def noValue (name : Bytes) : Sh Unit := do
  if ← Sh.hasOption 'u' then unset name (text "parameter not set")

def reject {α : Type} (expression : Bytes) : Arithmetic.Fault → Sh α
  | .syntax_ message =>
    Sh.fail [text "arithmetic expression: ", text message, text ": \"", expression, text "\""]
  | .number bs => Sh.fail [text "Illegal number: ", bs]
  | .readOnly name => Sh.fail [name, text ": is read only"]
  | .overflow => do
    let p ← Sh.act Act.pid
    let _ ← Sh.act (Act.kill p Signal.arithmetic)
    throw .exit

def evaluate (expression : Bytes) : Sh Int := do
  let m ← get
  let (answer, assigned) := Arithmetic.evaluate m.value? m.isReadOnly expression
  for (name, n) in assigned do Sh.setVar name (some (text (toString n)))
  match answer with
  | .ok n => return n
  | .error fault => reject expression fault

variable (output : Command → Sh Bytes)

/-- the output of a command without the newlines at its end -/
def outputOf (body : Option Command) : Sh Bytes := do
  let bs ← match body with
    | some c => output c
    | none => pure []
  return ((bs.filter (· ≠ 0)).reverse.dropWhile (· = newline)).reverse

/-- how far the parts of a word were expanded -/
structure Progress where
  done : Expanded
  inQuotes : Bool := false
  /-- a home directory may stand here -/
  tilde : Bool := false
  /-- the last run is text of the word itself -/
  isText : Bool := false
  /-- how many parts to pass over -/
  skip : Nat := 0

namespace Progress

/-- an octet of the word itself -/
def octet (w : Manner) (p : Progress) (b : UInt8) : Progress :=
  let tilde := w.colons && b == 58
  if w.argument && !w.quoted && !p.inQuotes then
    let done := match p.isText, p.done with
      | true, r :: rest => { r with cells := .octet b false :: r.cells } :: rest
      | _, done => ⟨.split, [.octet b false]⟩ :: done
    { p with done := done, isText := true, tilde := tilde }
  else { p with done := p.done.push (.octet b false), isText := false, tilde := tilde }

def cell (p : Progress) (c : Cell) : Progress :=
  { p with done := p.done.push c, isText := false, tilde := false }

def go (p : Progress) (done : Expanded) : Progress :=
  { p with done := done, isText := false, tilde := false }

end Progress

/-- a parameter as it is, or without an operation that bears on its value -/
def shown (w : Manner) (e : Expanded) (name : Bytes) (orEmpty : Bool) : Sh Expanded := do
  let m ← get
  match (value? m w name).filter fun cells => !orEmpty || cells ≠ [] with
  | some cells => return record m w name e cells
  | none =>
    noValue name
    return e

/-- all arguments and the end of quotes around them: no arguments make no field -/
def isAllArguments : List Part → Bool
  | .param [64] .value false [] :: .quote :: _ => true
  | _ => false

mutual

/-- what a part adds -/
def part (w : Manner) (e : Expanded) (x : Part) : Sh Expanded :=
  match x with
  | .octet b => return e.push (.octet b false)
  | .escaped b => return e.push (.octet b true)
  | .quote => return e.push .mark
  | .output body => do
    let cells := Cell.ofBytes (← outputOf output body) (guarded w.quoted)
    return e.add (if w.quoted then .fixed else .split) cells
  | .arithmetic body => do
    let p ← parts {} { done := [] } body
    let n ← evaluate (Field.text p.done.cells)
    let cells := Cell.ofBytes (text (toString n)) (guarded w.quoted)
    return e.add (if w.quoted then .fixed else .split) cells
  | .param name op orEmpty arg => do
    let m ← get
    let value := (value? m w name).filter fun cells => !orEmpty || cells ≠ []
    let record := record m w name e
    let given : Sh Expanded := do
      return (← parts { w with argument := true } { done := e, tilde := true } arg).done
    let alone : Sh Field := do
      return (← parts {} { done := [], tilde := true } arg).done.cells
    match op, value with
    | .none, _ => Sh.fail [text "Bad substitution"]
    | .andThen, some _ => given
    | .andThen, none => return record []
    | .orElse, none => given
    | .assign, none =>
      Sh.setVar name (some (Field.text (← alone)))
      shown w e name false
    | .orFail, none =>
      let message := Field.text (← alone)
      unset name (if !arg.isEmpty then message
        else text (if orEmpty then "parameter not set or null" else "parameter not set"))
    | .length, value =>
      if value.isNone then noValue name
      return record (Cell.ofBytes (decimal (value.getD []).length) fun _ => false)
    | .cutSuffix longest, some cells =>
      let pattern := Field.pattern (← alone)
      return record (match cut? (.cutSuffix longest) pattern (octets cells) with
        | some n => cells.drop (cells.length - n)
        | none => cells)
    | .cutPrefix longest, some cells =>
      let pattern := Field.pattern (← alone)
      return record (match cut? (.cutPrefix longest) pattern (octets cells) with
        | some n => cells.take (cells.length - n)
        | none => cells)
    | _, _ => shown w e name orEmpty
termination_by sizeOf x

/-- What the parts of a word add, one after another. A parameter whose operation is for an empty
value only goes on with its argument and ends the word. -/
def parts (w : Manner) (p : Progress) (ps : List Part) : Sh Progress :=
  match ps with
  | [] => return p
  | x :: rest => do
    let within := { w with quoted := w.quoted || p.inQuotes }
    if p.skip ≠ 0 then parts w { p with skip := p.skip - 1 } rest
    else match x with
    | .octet b =>
      let m ← get
      match if p.tilde ∧ b = 126 then home? m w.colons rest else none with
      | some (dir, n) =>
        let cells := Cell.ofBytes dir fun _ => true
        parts w { p.go (p.done.add .fixed cells) with skip := n } rest
      | none => parts w (p.octet w b) rest
    | .escaped b => parts w (p.cell (.octet b true)) rest
    | .quote =>
      if !p.inQuotes && isAllArguments rest then
        let e ← shown { w with quoted := true } p.done [64] false
        parts w { p.go e with skip := 2 } rest
      else parts w { p.cell .mark with inQuotes := !p.inQuotes } rest
    | .param name .value true arg =>
      parts w (p.go (← shown within p.done name true)) arg
    | x => parts w (p.go (← part within p.done x)) rest
termination_by sizeOf ps

end

/-- a word as one text, its quotes removed -/
def textOf (w : Word) : Sh Bytes := do
  return Field.text (← parts output {} { done := [], tilde := true } w).done.cells

/-- a word as the value of a variable -/
def valueOf (w : Word) : Sh Bytes := do
  return Field.text (← parts output { colons := true } { done := [], tilde := true } w).done.cells

def patternOf (w : Word) : Sh Pattern := do
  return Field.pattern (← parts output {} { done := [], tilde := true } w).done.cells

def documentOf (w : Word) : Sh Bytes := do
  return Field.text (← parts output { quoted := true } { done := [] } w).done.cells

/-- the arguments that a field makes: the paths that it matches, or its own text -/
def argumentsOf (f : Field) : Sh (List Bytes) := do
  if (← Sh.hasOption 'f') || !(Field.text f).any Pattern.isSign then return [Field.text f]
  let pattern := Field.pattern f
  match ← Sh.act (Act.ask fun p s => FileName.matching s p pattern) with
  | [] => return [Field.text f]
  | paths => return paths

/-- the arguments that a word makes -/
def fieldsOf (w : Word) : Sh (List Bytes) := do
  let p ← parts output { fields := true } { done := [], tilde := true } w
  let fields := p.done.fields (← get).separators none
  return (← fields.mapM argumentsOf).flatten

/-- an assignment that is the argument of a command, which is not split -/
def assignmentOf (name : Bytes) (value : Word) : Sh Bytes := do
  return name ++ 61 :: (← valueOf output value)

end Expansion
end JarLauncher.Shell
