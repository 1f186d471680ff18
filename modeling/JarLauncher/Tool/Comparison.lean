import JarLauncher.Tool.Copy
import JarLauncher.Tool.Mode

/-! Two inputs compared octet by octet. -/

namespace JarLauncher.Tool

open Unix
open Shell (text newline)

namespace Comparison

/-- what is told of differences -/
inductive Telling where
  | first
  | all
  | nothing
  deriving DecidableEq

structure Choice where
  telling : Telling := .first
  /-- octets are shown as characters too -/
  shows : Bool := false
  limit : Option Nat := none
  /-- how much is left out at the start of each input -/
  skipped : Nat × Nat := (0, 0)

/-- a use that is wrong; the name of the tool stands in front of the hint too -/
def misuse {α : Type} (words : List Bytes) : Work α := do
  Work.complain words
  Work.complain [text "Try '", (← get).name, text " --help' for more information."]
  throw 2

def units : String := "kKMGTPEZY"

def menu : Menu :=
  { letters := "bci:ln:sv"
    words := [flag "print-bytes" 'b', flag "print-chars" 'c', valued "ignore-initial" 'i',
      flag "verbose" 'l', valued "bytes" 'n', flag "silent" 's', flag "quiet" 's',
      flag "version" '?', flag "help" '?'] }

/-- a count of octets that are left out -/
def skip (value : Bytes) : Work Nat := do
  match Count.scaled units value true with
  | .ok n => return n
  | .error _ => misuse [text "invalid --ignore-initial value '", value, text "'"]

def setTelling (c : Choice) (t : Telling) : Work Choice := do
  if c.telling ≠ .first ∧ c.telling ≠ t then misuse [text "options -l and -s are incompatible"]
  return { c with telling := t }

def take (c : Choice) (g : Given) : Work Choice := do
  let value := g.value.getD []
  match g.letter with
  | 'b' | 'c' => return { c with shows := true }
  | 'i' =>
    let (a, b) := value.span (· ≠ 58)
    let m ← skip (if a = [] then value else a)
    let n ← match b with
      | _ :: b => skip b
      | [] => pure m
    return { c with skipped := (max c.skipped.1 m, max c.skipped.2 n) }
  | 'l' => setTelling c .all
  | 's' => setTelling c .nothing
  | 'n' =>
    match Count.scaled units value true with
    | .ok n => return { c with limit := some (c.limit.elim n (min n)) }
    | .error _ => misuse [text "invalid --bytes value '", value, text "'"]
  | _ => throw 0

/-- an octet as a number of three digits -/
def octal (b : UInt8) : Bytes :=
  let ds := Mode.octal b.toNat
  List.replicate (3 - ds.length) 32 ++ ds

/-- an octet in a column of characters -/
def shown (width : Nat) (b : UInt8) : Bytes :=
  let c := Shown.caret b
  c ++ List.replicate (width - c.length) 32

/-- two inputs with what is known of them -/
structure Pair where
  names : Bytes × Bytes
  fds : Nat × Nat

/-- where a comparison is -/
structure Place where
  /-- the number of the next octet -/
  at_ : Nat := 1
  line : Nat := 1
  atStart : Bool := true
  differs : Bool := false
  left : Option Nat

/-- how much of an input is compared at once -/
def room : Nat := 4096

/-- read so much, or up to the end -/
def piece (operand : Bytes) (fd count : Nat) : Work ByteArray :=
  Work.loop ByteArray.empty fun done => do
    if count ≤ done.size then return .error done
    match ← Work.act (Act.read fd (count - done.size)) with
    | .error e => Work.fail [operand, text ": ", reason e]
    | .ok data => return if data.isEmpty then .error done else .ok (done ++ data)

/-- the places where two pieces differ -/
def places (a b : ByteArray) : List (Nat × UInt8 × UInt8) :=
  (a.toList.zip b.toList).zipIdx.filterMap fun ((x, y), i) => if x = y then none else some (i, x, y)

/-- the number of the first octet that differs, with all that is known of it -/
def tellFirst (c : Choice) (names : Bytes × Bytes) (at_ line : Nat) (x y : UInt8) : Work Unit :=
  let word := if c.shows then " differ: byte " else " differ: char "
  let what := if c.shows then
      text " is " ++ octal x ++ [32] ++ shown 0 x ++ [32] ++ octal y ++ [32] ++ shown 0 y
    else []
  Work.putLine (names.1 ++ [32] ++ names.2 ++ text word ++ Shell.decimal at_ ++ text ", line " ++
    Shell.decimal line ++ what)

def tellEnd (c : Choice) (name : Bytes) (p : Place) : Work Unit :=
  if p.at_ = 1 then Work.say [text "cmp: EOF on ", name, text " which is empty\n"]
  else
    let line := if c.telling = .all then []
      else text (if p.atStart then ", line " else ", in line ") ++
        Shell.decimal (if p.atStart then p.line - 1 else p.line)
    Work.say [text "cmp: EOF on ", name, text " after byte ", Shell.decimal (p.at_ - 1), line,
      [newline]]

/-- compare the next pieces; what is known ends it -/
def step (c : Choice) (q : Pair) (width : Nat) (p : Place) : Work (Except Bool Place) := do
  let wanted := p.left.elim room (min room)
  let a ← piece q.names.1 q.fds.1 wanted
  let b ← piece q.names.2 q.fds.2 wanted
  let found := places a b
  let size := min a.size b.size
  let same := (found.head?.map (·.1)).getD size
  let before := (a.extract 0 same).toList
  let p := { p with
    line := p.line + before.count newline
    atStart := before.getLast?.elim p.atStart (· == newline) }
  if let (i, x, y) :: _ := found then
    match c.telling with
    | .first =>
      tellFirst c q.names (p.at_ + i) p.line x y
      return .error true
    | .nothing => return .error true
    | .all =>
      for (i, x, y) in found do
        let n := Shell.decimal (p.at_ + i)
        Work.putLine (List.replicate (width - n.length) 32 ++ n ++ [32] ++
          (if c.shows then octal x ++ [32] ++ shown 4 x ++ [32] ++ octal y ++ [32] ++ shown 0 y
            else octal x ++ [32] ++ octal y))
  let p := { p with
    at_ := p.at_ + size, differs := p.differs || !found.isEmpty,
    left := p.left.map (· - wanted) }
  if a.size ≠ b.size then
    if c.telling ≠ .nothing then
      tellEnd c (if a.size < b.size then q.names.1 else q.names.2) p
    return .error true
  return if a.size < room then .error p.differs else .ok p

/-- the size of what is left of an input, if that can be told -/
def restSize (fd : Nat) : Act (Option Nat) := Act.ask fun p s => do
  let (_, o) ← s.opened? p fd
  match s.tree.content o.node with
  | .file data => some (data.size - o.offset)
  | _ => none

/-- go on behind so many octets -/
def pass (operand : Bytes) (fd count : Nat) : Work Unit := do
  if count = 0 then return
  if (← Work.act (restSize fd)).isSome then
    Work.act (Act.modify fun p s => match s.opened? p fd with
      | some (_, o) => (s.seek p fd (o.offset + count)).2
      | none => s)
  else
    let _ ← piece operand fd count

/-- both are the same file at the same place -/
def isOne (fds : Nat × Nat) : Act Bool := Act.ask fun p s =>
  match s.opened? p fds.1, s.opened? p fds.2 with
  | some (_, a), some (_, b) => a.node = b.node && a.offset = b.offset
  | _, _ => false

/-- the width of a number in the list of all differences -/
def widthOf (c : Choice) (sizes : List (Option Nat)) : Nat :=
  let most := c.limit.getD 9223372036854775807
  (Shell.decimal ((sizes.filterMap id).foldl min (min most 9223372036854775807))).length

end Comparison

open Comparison in
def cmp : Routine := fun args => do
  let t := menu.take args
  let mut c : Choice := {}
  for g in t.options do
    if g.letter = '?' then throw 0
    c ← Comparison.take c g
  if let some words := t.fault then misuse words
  let (a, b, skips) ← match t.operands with
    | [] => misuse [text "missing operand after '", args.getLast?.getD (← get).name, text "'"]
    | [a] => pure (a, Work.dash, [])
    | a :: b :: skips => pure (a, b, skips)
  let firstSkip ← match skips with
    | x :: _ => skip x
    | [] => pure 0
  let secondSkip ← match skips with
    | _ :: x :: _ => skip x
    | _ => pure 0
  if let _ :: _ :: extra :: _ := skips then misuse [text "extra operand '", extra, text "'"]
  let open_ (x : Bytes) : Work Nat := do
    let answer ← Work.openOperand x
    let isOpen ← Work.act (Act.ask fun p s => match answer with
      | .ok fd => (s.opened? p fd).isSome
      | .error _ => true)
    match if isOpen then answer else .error Errno.badDescriptor with
    | .ok fd => return fd
    | .error e =>
      if c.telling ≠ .nothing then Work.complain [x, text ": ", reason e]
      throw 2
  let fds ← if b = Work.dash then do
      let second ← open_ b
      pure (← open_ a, second)
    else do
      let first ← open_ a
      pure (first, ← open_ b)
  let sizes := (max c.skipped.1 firstSkip, max c.skipped.2 secondSkip)
  if sizes.1 = sizes.2 then
    if ← Work.act (isOne fds) then return
  pass a fds.1 sizes.1
  pass b fds.2 sizes.2
  let left := (← Work.act (restSize fds.1), ← Work.act (restSize fds.2))
  if let (.nothing, some m, some n) := (c.telling, left.1, left.2) then
    if m ≠ n ∧ c.limit.all (min m n < ·) then throw 1
  let differs ← Work.loop ({ left := c.limit } : Place)
    (step c ⟨(a, b), fds⟩ (widthOf c [left.1, left.2]))
  if differs then throw 1

end JarLauncher.Tool
