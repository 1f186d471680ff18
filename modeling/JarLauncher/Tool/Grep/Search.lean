import JarLauncher.Shell.Pattern
import JarLauncher.Tool.Copy
import JarLauncher.Tool.Grep.Query
import JarLauncher.Tool.Place

/-! Lines that match, in files and below directories. An input is read as far as it is needed. -/

namespace JarLauncher.Tool

open Unix
open Shell (text newline)

namespace Grep

/-- octets between the signs that turn a colour on and off -/
def inColour (g : Grep) (colour : String) (bs : Bytes) : Bytes :=
  if g.coloured then text ("\x1b[" ++ colour ++ "m\x1b[K") ++ bs ++ text "\x1b[m\x1b[K" else bs

def matchColour : String := "01;31"
def nameColour : String := "35"
def numberColour : String := "32"
def signColour : String := "36"

/-- a line of an input -/
structure Line where
  number : Nat
  /-- the octet of the input that it starts at -/
  start : Nat
  octets : Bytes

/-- what was shown so far: of an input, and at all -/
structure Shown where
  count : Nat := 0
  /-- lines that were passed over, the last one first -/
  before : List Line := []
  /-- how many lines are still to be shown after a match -/
  due : Nat := 0
  /-- the number of the last line shown -/
  last : Option Nat := none
  /-- some line was shown, if of another input -/
  any : Bool := false

/-- how an input is shown -/
structure View where
  name : Option Bytes
  /-- how wide numbers are -/
  width : Nat
  isMixed : Bool := false

/-- what stands in front of a line; `sign` tells if it was selected -/
def head (g : Grep) (v : View) (sign : UInt8) (number at_ : Nat) (hasText : Bool) : Bytes :=
  let sign := g.inColour signColour [sign]
  let numbered (n : Nat) : Bytes :=
    let ds := Shell.decimal n
    g.inColour numberColour (List.replicate (v.width - ds.length) 32 ++ ds) ++ sign
  let name := match v.name with
    | some name => g.inColour nameColour name ++ if g.nulNames then [0] else sign
    | none => []
  let isHeaded := v.name.isSome || g.numbers || g.places
  name ++ (if g.numbers then numbered number else []) ++ (if g.places then numbered at_ else []) ++
    if g.aligned && isHeaded && hasText then [9] else []

/-- a line with its matches in colour -/
def painted (g : Grep) (q : Matcher) (line : Bytes) : Bytes :=
  let (shown, at_) := (q.all line).foldl (fun (done, at_) (start, bs) =>
    (done ++ (line.drop at_).take (start - at_) ++ g.inColour matchColour bs,
      start + bs.length)) (([] : Bytes), 0)
  shown ++ line.drop at_

def putLine (g : Grep) (q : Matcher) (v : View) (selected : Bool) (l : Line) : Work Unit := do
  let isPainted := g.coloured && selected != g.inverted
  Work.put (g.head v (if selected then 58 else 45) l.number l.start (l.octets ≠ []) ++
    (if isPainted then g.painted q l.octets else l.octets) ++ [g.ending])

/-- a match, after the lines in front of it that are to be shown too -/
def showSelected (g : Grep) (q : Matcher) (v : View) (s : Shown) (l : Line) : Work Unit := do
  let before := (s.before.take g.linesBefore).reverse
  let first := (before.head?.map Line.number).getD l.number
  if g.hasContext && s.any && s.last.all (· + 1 < first) then
    if let some bs := g.divider then Work.putLine (g.inColour signColour bs)
  if g.onlyMatches then
    if !g.inverted then
      for (at_, bs) in q.all l.octets do
        Work.put (g.head v 58 l.number (l.start + at_) true ++ g.inColour matchColour bs ++
          [g.ending])
  else
    for b in before do
      g.putLine q v false b
    g.putLine q v true l

/-- only whether there is a match counts, so that one is enough -/
def isDoneAtFirst (g : Grep) : Bool := g.quiet || g.lists.isSome

/-- nothing of the lines is shown -/
def isSilentOn (g : Grep) (v : View) : Bool := g.isDoneAtFirst || g.counts || v.isMixed

/-- go on by a line; an error is the end -/
def step (g : Grep) (q : Matcher) (v : View) (s : Shown) (l : Line) :
    Work (Except Shown Shown) := do
  let silent := g.isSilentOn v
  -- nothing more is to be selected or shown
  let isOver (s : Shown) : Bool := g.most.any (· ≤ s.count) && (silent || s.due = 0)
  let isFull := g.most.any (· ≤ s.count)
  if isOver s then return .error s
  if !isFull && q.holds l.octets != g.inverted then
    if !silent then showSelected g q v s l
    let s := { s with
      count := s.count + 1, before := [], due := g.linesAfter, last := some l.number,
      any := s.any || !silent }
    return if isOver s || g.isDoneAtFirst || (v.isMixed && !g.counts) then .error s else .ok s
  if 0 < s.due then
    if !silent && !g.onlyMatches then g.putLine q v false l
    return .ok { s with due := s.due - 1, last := some l.number, before := [] }
  if g.linesBefore ≠ 0 then return .ok { s with before := l :: s.before.take (g.linesBefore - 1) }
  return .ok s

/-- how much is read at once, and looked at to tell if an input is text -/
def room : Nat := 98304

/-- what is done with one input that is open; how many lines were selected, and what went wrong -/
def search (g : Grep) (q : Matcher) (any : Bool) (name : Option Bytes) (shown : Bytes)
    (fd : Nat) : Work (Shown × Option Int) := do
  let size ← Work.act (Act.ask fun p s => (s.opened? p fd).bind fun (_, o) =>
    match s.tree.content o.node with
    | .file data => some data.size
    | _ => none)
  let width := if !g.aligned then 0
    else (Shell.decimal (size.getD (Nat.pow 2 64 - 2) + if g.numbers then 1 else 0)).length
  match ← ({ fd := fd, room := room : Source }).fill with
  | .error e => return ({ any := any }, some e)
  | .ok source =>
    let isMixed := !g.nulEnded && g.mixed ≠ .shown && source.held.toList.contains 0
    if isMixed && g.mixed = .ignored then return ({ any := any }, none)
    let v : View := ⟨name, width, isMixed⟩
    let start : Shown × Nat × Nat := ({ any := any }, 1, 0)
    let ((s, _), fault, rest) ← Work.eachLine source g.ending start fun (s, number, at_) l => do
      -- in what is not text, an octet of zero ends a line as well
      let pieces := if isMixed then Path.splitOn 0 l.octets else [l.octets]
      let mut s := s
      let mut goesOn := true
      let mut at_ := at_
      for bs in pieces do
        if goesOn then
          match ← g.step q v s ⟨number, at_, bs⟩ with
          | .ok t => s := t
          | .error t =>
            s := t
            goesOn := false
          at_ := at_ + bs.length + 1
      return if goesOn then .ok (s, number + 1, at_) else .error (s, number + 1, at_)
    if isMixed && !g.isDoneAtFirst && !g.counts && s.count ≠ 0 then
      Work.complain [shown, text ": binary file matches"]
    if shown = g.label && fd = 0 && g.most.any (· ≤ s.count) then rest.putBack
    return (s, fault)

/-- standard output goes to the file that is read -/
def isOutput (fd : Nat) : Act Bool := Act.ask fun p s =>
  match s.opened? p fd, s.opened? p 1 with
  | some (_, i), some (_, o) => (s.tree.content i.node).isFile && i.node = o.node
  | _, _ => false

/-- what the search has come to -/
structure Result where
  selected : Bool := false
  failed : Bool := false
  any : Bool := false

def complain (g : Grep) (name : Bytes) (e : Int) : Work Unit := do
  if !g.silent then Work.complain [name, text ": ", reason e]

/-- search one input that is open -/
def searchOpen (g : Grep) (q : Matcher) (r : Result) (named : Bool) (name : Bytes) (fd : Nat) :
    Work Result := do
  if !g.isDoneAtFirst && !g.counts && g.most.all (1 < ·) && (← Work.act (isOutput fd)) then
    if !g.silent then Work.complain [name, text ": input file is also the output"]
    return { r with failed := true }
  let (s, fault) ← g.search q r.any (if named then some name else none) name fd
  if let some e := fault then g.complain name e
  let selected : Bool := s.count ≠ 0
  let shown (bs : Bytes) : Bytes := g.inColour nameColour bs
  if g.counts && !g.isDoneAtFirst then
    let sign := if g.nulNames then [0] else g.inColour signColour [58]
    let front := if named then shown name ++ sign else []
    Work.put (front ++ Shell.decimal s.count ++ [newline])
  if !g.quiet && g.lists = some selected then
    Work.put (shown name ++ [if g.nulNames then 0 else newline])
  if g.quiet && selected then throw 0
  return { selected := r.selected || selected, failed := r.failed || fault.isSome, any := s.any }

/-- a name is matched by a pattern, or what is behind a slash in it -/
def matchesName (anchored : Bool) (pattern name : Bytes) : Bool :=
  Shell.Pattern.accepts pattern name || !anchored &&
    (List.range name.length).any fun i =>
      name[i]? = some Path.slash && name[i + 1]? ≠ some Path.slash &&
        Shell.Pattern.accepts pattern (name.drop (i + 1))

/-- a file is passed over because of its name: the last word on it counts, or else the first -/
def isFiltered (g : Grep) (isOperand : Bool) (name : Bytes) : Bool :=
  match g.filters.reverse.find? fun (_, p) => matchesName (!isOperand) p name with
  | some (wanted, _) => !wanted
  | none => (g.filters.head?.map Prod.fst).getD false

def isClosed (g : Grep) (isOperand : Bool) (name : Bytes) : Bool :=
  g.closed.any fun p => matchesName (!isOperand) p name

/-- the files below a directory that are searched, in the order that they are held -/
def filesBelow (g : Grep) (t : FileTree) (cwd : FileTree.Id) : Nat → Bytes → FileTree.Id →
    List Bytes
  | 0, _, _ => []
  | fuel + 1, path, n =>
    (t.entries n).flatMap fun (name, n) =>
      let path := if path = [] then name else Path.join path name
      let n? := match t.content n with
        | .link _ => if g.follows then (t.find cwd path).toOption else none
        | _ => some n
      match n? with
      | none => if g.follows then [path] else []
      | some n =>
        if t.isDir n then
          if g.isClosed false name then [] else filesBelow g t cwd fuel path n
        else if g.isFiltered false name then []
        else if (t.content n).isFile || g.skipsDevices = some false then [path]
        else []

/-- search an operand, or one file below it -/
def searchPath (g : Grep) (q : Matcher) (r : Result) (named isOperand : Bool) (x : Bytes) :
    Work Result := do
  let shown := if isOperand && x = Work.dash then g.label else x
  match ← (if isOperand then Work.openOperand x else Work.act (Act.openPath x Access.read)) with
  | .error e =>
    g.complain shown e
    return { r with failed := true }
  | .ok fd =>
    let r ← g.searchOpen q r named shown fd
    if !(isOperand && x = Work.dash) then Work.act (Act.close fd)
    return r

/-- what an operand is -/
inductive Kind where
  | dir (n : FileTree.Id)
  | device
  | other

def kindOf (x : Bytes) : Act Kind := Act.ask fun p s =>
  match s.find p x with
  | .error _ => .other
  | .ok n =>
    if s.tree.isDir n then .dir n else if (s.tree.content n).isFile then .other else .device

/-- Search all operands. Names are shown if there are several, or of files below a directory. -/
def searchAll (g : Grep) (q : Matcher) (operands : List Bytes) : Work Result := do
  let isBare := operands.isEmpty && g.directories = .recurse
  let inputs := if isBare then [Path.here] else Work.orInput operands
  let named := g.names.getD (1 < operands.length)
  let mut r : Result := {}
  for x in inputs do
    let kind ← if x = Work.dash then pure Kind.other else Work.act (kindOf x)
    match kind with
    | .dir n =>
      if g.directories = .recurse then
        if isBare || !g.isClosed true x then
          let path := if isBare then [] else trimSlashes x
          let (t, cwd) ← Work.act (Act.ask fun p s => (s.tree, s.cwd p))
          for y in g.filesBelow t cwd deepest path n do
            r ← g.searchPath q r (g.names.getD true) false y
      else if g.directories = .read && !g.isFiltered true x then
        r ← g.searchPath q r named true x
    | _ =>
      let isSkipped := (match kind with
        | .device => g.skipsDevices = some true
        | _ => false) || (x ≠ Work.dash && g.isFiltered true x)
      if !isSkipped then r ← g.searchPath q r named true x
  return r

end Grep

def grepWith (start : Grep) : Routine := fun args => do
  let t := Grep.menu.take args
  let g ← t.options.foldlM (fun g x => do
    if x.letter = '?' ∨ x.letter = 'V' then throw 0
    g.take x) start
  if let some words := t.fault then
    let d ← get
    Work.say (d.name :: text ": " :: words ++ [[newline]])
    Grep.usage
  let (g, operands) ← match g.isGiven, t.operands with
    | false, [] => Grep.usage
    | false, pattern :: rest =>
      pure ({ g with patterns := Grep.wantedIn none (Path.splitOn newline pattern) }, rest)
    | true, operands => pure (g, operands)
  let q ← g.compile
  if g.most = some 0 ∧ g.lists ≠ some false then throw 1
  let r ← g.searchAll q operands
  throw (if r.failed then 2 else if r.selected then 0 else 1)

def grep : Routine := grepWith {}

/-- the tool under a name that stands for some of its options -/
def grepAs (start : Grep) : Routine := fun args => do
  modify fun d => { d with name := text "grep" }
  grepWith start args

end JarLauncher.Tool
