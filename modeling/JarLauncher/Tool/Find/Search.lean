import JarLauncher.Shell.Pattern
import JarLauncher.Tool.Find.Query
import JarLauncher.Tool.Timing

/-! A search through directories: each file below the operands is asked the query. -/

namespace JarLauncher.Tool

open Unix
open Shell (text)

namespace Find

/-- what a search holds on its way -/
structure Way where
  /-- the directory that was just asked about is not entered -/
  pruned : Bool := false
  ended : Bool := false
  /-- the files that each command gathered -/
  gathered : List (List Bytes)

abbrev Search := StateT Way Work

def liftSearch {α : Type} (w : Work α) : Search α := liftM w

/-- a file that was found -/
structure Found where
  path : Bytes
  id : FileTree.Id

/-- the last component of a path -/
def lastName (path : Bytes) : Bytes :=
  match ((Path.splitOn Path.slash path).filter (· ≠ [])).getLast? with
  | some name => name
  | none => path.take 1

def fold (b : UInt8) : UInt8 := if 65 ≤ b ∧ b ≤ 90 then b + 32 else b

def accepts (pattern : Bytes) (folds : Bool) (bs : Bytes) : Bool :=
  if folds then Shell.Pattern.accepts (pattern.map fold) (bs.map fold)
  else Shell.Pattern.accepts pattern bs

/-- the letter of a kind -/
def kindOf (c : Content) : UInt8 :=
  match c with
  | .file _ | .program _ => 102
  | c => Mode.kind c

def contentSize (c : Content) : Nat :=
  match c with
  | .file data => data.size
  | .link target => target.length
  | .dir .. => 4096
  | _ => 0

def isEmpty (c : Content) : Bool :=
  match c with
  | .file data => data.isEmpty
  | .dir entries _ _ => entries.isEmpty
  | _ => false

def fits (fit : Fit) (bits mode : Nat) : Bool :=
  match fit with
  | .exactly => mode = bits
  | .all => mode &&& bits = bits
  | .any => bits = 0 || mode &&& bits ≠ 0

/-- run a command and wait for it -/
def ran (line : List Bytes) : Work Bool := do
  Work.flush
  let d ← get
  let work : Work Nat := do
    let e ← Work.act (Act.execNamed (line.headD []) line d.env)
    Work.complain [Quoting.always (line.headD []), text ": ", reason e]
    throw 1
  let child ← Work.act (Act.fork (work d fun (r, _) => .exit (match r with
    | .ok n => n
    | .error n => n)))
  match ← Work.act (awaitUntilDue child) with
  | .ended (.exited 0) => return true
  | _ => return false

def delete (f : Found) (isDir : Bool) : Work Bool := do
  if f.path = Path.here then return true
  match ← Work.change fun t cwd => if isDir then t.rmdir cwd f.path else t.unlink cwd f.path with
  | none => return true
  | some e =>
    Work.warn [text "cannot delete ", Quoting.always f.path, text ": ", reason e]
    return false

/-- run a command with what it gathered -/
def runGathered (words files : List Bytes) : Work Unit := do
  if !files.isEmpty then
    if !(← ran (words ++ files)) then Work.failed

def ask (f : Found) (n : Node) : Query → Search Bool
  | .constant b => return b
  | .name pattern folds => return accepts pattern folds (lastName f.path)
  | .path pattern folds => return accepts pattern folds f.path
  | .kind letters => return letters.contains (kindOf n.content)
  | .empty => return isEmpty n.content
  | .newer changed => return changed < n.changed
  | .size order count unit =>
    return compare ((contentSize n.content + unit - 1) / unit) count = order
  | .permits fit bits => return fits fit bits (n.mode &&& 0o7777)
  | .runnable => return n.content.isDir || n.mode &&& 0o111 ≠ 0
  | .print ending => do
    liftSearch (Work.put (f.path ++ [ending]))
    return true
  | .prune => do
    modify fun w => { w with pruned := true }
    return true
  | .delete => liftSearch (delete f n.content.isDir)
  | .quit => do
    modify fun w => { w with ended := true }
    return true
  | .run words =>
    liftSearch (ran (words.map fun c => replaced [123, 125] f.path (c.length + 1) c))
  | .gather _ number => do
    modify fun w => { w with gathered := w.gathered.modify number (· ++ [f.path]) }
    return true
  | .negated q => return !(← ask f n q)
  | .both a b => do if ← ask f n a then ifGoing (ask f n b) else return false
  | .either a b => do if ← ask f n a then return true else ifGoing (ask f n b)
  | .sequence a b => do
    let _ ← ask f n a
    ifGoing (ask f n b)
where
  ifGoing (next : Search Bool) : Search Bool := do if (← get).ended then return false else next

/-- ask about a file and then, unless it was said not to, about what is in it -/
def visit (q : Query) (p : Plan) : Nat → Nat → Found → Search Unit
  | 0, _, _ => return
  | fuel + 1, depth, f => do
    if (← get).ended then return
    let n := (← liftSearch (Work.act Act.tree)).node f.id
    modify fun w => { w with pruned := false }
    let asked : Search Unit := do if p.least ≤ depth then let _ ← ask f n q
    if !p.fromBelow then asked
    let enters := n.content.isDir && depth < p.most && (p.fromBelow || !(← get).pruned)
    if enters && !(← get).ended then
      for (name, id) in (← liftSearch (Work.act Act.tree)).entries f.id do
        visit q p fuel (depth + 1) ⟨Path.join f.path name, id⟩
    if p.fromBelow && !(← get).ended then asked

/-- the signs that open a query -/
def opensQuery (arg : Bytes) : Bool :=
  match arg with
  | 45 :: _ :: _ => true
  | _ => isNot arg || isOpen arg

end Find

def find : Routine := fun args => do
  let args := args.dropWhile fun a => a = text "-P" || a = text "-H" || a = text "-L"
  let args := if args.head? = some (text "--") then args.drop 1 else args
  let (operands, signs) := args.span fun a => !Find.opensQuery a
  let (q, plan) ← Find.query signs
  let mut way : Find.Way := { gathered := plan.gatherers.map fun _ => [] }
  for x in if operands.isEmpty then [Path.here] else operands do
    if !way.ended then
      match ← idOf x false with
      | .error e => Work.warn [Quoting.always x, text ": ", reason e]
      | .ok n =>
        let (_, w) ← (Find.visit q plan deepest 0 ⟨x, n⟩) way
        way := w
  for (words, files) in plan.gatherers.zip way.gathered do
    Find.runGathered words files

end JarLauncher.Tool
