import JarLauncher.Shell.Memory
import JarLauncher.Shell.FileName
import JarLauncher.Shell.Arithmetic
import JarLauncher.Shell.CommandPath
import JarLauncher.Shell.Own

/-! Variables: setting and unsetting them, what some of them do when they are set, and the values
that a function's own ones hide. -/

namespace JarLauncher.Shell

/-- octets in quotes: single ones around what holds none, double ones around single ones; `fuel`
bounds the pieces -/
def quotedFrom : Nat → Bytes → Bytes
  | 0, _ => []
  | fuel + 1, bs =>
    let (plain, rest) := bs.span (· ≠ 39)
    let (quotes, rest') := rest.span (· = 39)
    39 :: plain ++ 39 ::
      if rest = [] then []
      else 34 :: quotes ++ 34 :: if rest' = [] then [] else quotedFrom fuel rest'

/-- a text in quotes that the shell reads back as it is -/
def quoted (bs : Bytes) : Bytes := quotedFrom (bs.length + 1) bs

namespace Memory

def var? (m : Memory) (name : Bytes) : Option Var := m.vars.lookup name

def value? (m : Memory) (name : Bytes) : Option Bytes := (m.var? name).bind Var.value

def isReadOnly (m : Memory) (name : Bytes) : Bool := (m.var? name).any Var.readOnly

/-- the value that a variable is known by in this text -/
def valueOf (m : Memory) (name : String) : Option Bytes := m.value? (text name)

/-- the octets that fields are split at -/
def separators (m : Memory) : Bytes := (m.valueOf "IFS").getD [32, 9, newline]

def putVar (m : Memory) (name : Bytes) (v : Var) : Memory :=
  { m with vars := if m.vars.any (·.1 = name)
      then m.vars.map fun x => if x.1 = name then (name, v) else x
      else m.vars ++ [(name, v)] }

def dropVar (m : Memory) (name : Bytes) : Memory :=
  { m with vars := m.vars.filter (·.1 ≠ name) }

/-- the shelf that a variable stands on; programs get variables shelf by shelf -/
def shelf (name : Bytes) : Nat :=
  name.foldl (fun n b => n + b.toNat) ((name.headD 0).toNat * 16) % 39

/-- the variables that programs get -/
def exported (m : Memory) : List (Bytes × Bytes) :=
  (m.vars.filterMap fun (name, v) => if v.exported then v.value.map (name, ·) else none)
    |>.mergeSort fun a b => shelf a.1 ≤ shelf b.1

def path (m : Memory) : Bytes := (m.valueOf "PATH").getD []

end Memory

namespace Sh

/-- the number that a text says, which must not be negative or large -/
def number (bs : Bytes) : Sh Nat :=
  match Arithmetic.decimal? bs with
  | some n =>
    if 0 ≤ n ∧ n ≤ 2147483647 then return n.toNat else fail [text "Illegal number: ", bs]
  | none => fail [text "Illegal number: ", bs]

/-- what a remembered name stands for does not depend on the directories of a path -/
def isSettled (path : Bytes) (r : Remembered) : Bool :=
  r.found = .builtin &&
    (!CommandPath.findsFilesFirst path || (Own.ofName? r.name).any (·.regular))

/-- what else happens when a variable is set or unset -/
def afterSet (name value : Bytes) : Sh Unit := do
  if name = text "PATH" then
    modify fun m => { m with remembered := m.remembered.filter (isSettled value) }
  else if name = text "OPTIND" then
    let n ← number value
    modify fun m => { m with place := ⟨if n = 0 then 1 else n, none⟩ }

/-- set a variable whose name is one, or unset it; what else that does is left out if `silently` -/
def assign (name : Bytes) (value : Option Bytes) (exported readOnly fixed : Bool)
    (silently : Bool := false) : Sh Unit := do
  let m ← get
  let exported := exported || m.options.contains 'a'
  match m.var? name with
  | some old =>
    if old.readOnly then fail [name, text ": is read only"]
    if !silently then afterSet name (value.getD [])
    if value = none ∧ !exported ∧ !readOnly ∧ !fixed ∧ !old.fixed then
      modify fun m => m.dropVar name
    else
      modify fun m => m.putVar name
        ⟨value, exported || old.exported, readOnly || old.readOnly, fixed || old.fixed⟩
  | none =>
    if value.isSome || exported || readOnly || fixed then
      modify fun m => m.putVar name ⟨value, exported, readOnly, fixed⟩

/-- the name must be one -/
def checkName (name : Bytes) : Sh Unit := do
  let before := name.takeWhile (· ≠ 61)
  if !isName before then fail [before, text ": bad variable name"]

def setVar (name : Bytes) (value : Option Bytes) (exported : Bool := false)
    (readOnly : Bool := false) (fixed : Bool := false) : Sh Unit := do
  checkName name
  assign name value exported readOnly fixed

/-- a text as a name and the value after an equals sign, if there is one -/
def split (bs : Bytes) : Bytes × Option Bytes :=
  match bs.span (· ≠ 61) with
  | (name, _ :: value) => (name, some value)
  | (name, []) => (name, none)

/-- make a variable one of the function or command that runs -/
def makeLocal (bs : Bytes) (exported : Bool) : Sh Unit := do
  let m ← get
  let remember (l : Local) : Sh Unit := modify fun m => { m with
    locals := match m.locals with
      | ls :: rest => (l :: ls) :: rest
      | [] => [] }
  if bs = [45] then remember (.options m.options)
  else
    let (name, value) := split bs
    match m.var? name with
    | none =>
      match value with
      | some _ => assign name value exported false true
      | none => setVar bs none exported false true
      remember (.var name none)
    | some old =>
      modify fun m => m.putVar name { old with fixed := true }
      if value.isSome then assign name value exported false false
      remember (.var name (some old))

def putBack : Local → Sh Unit
  | .options before => modify fun m => { m with options := before }
  | .var name none => do
    modify fun m => match m.var? name with
      | some v => m.putVar name { v with fixed := false, readOnly := false }
      | none => m
    setVar name none
  | .var name (some old) => do
    afterSet name (old.value.getD [])
    modify fun m => m.putVar name old

/-- Run `body` with a place for variables of its own, and put back what they hid. If the body is
left by a mistake or an exit, that is done where the mistake is taken care of, if it is. -/
def withLocals {α : Type} (body : Sh α) : Sh α := do
  let depth := (← get).locals.length
  modify fun m => { m with locals := [] :: m.locals }
  let a ← body
  let m ← get
  let mine := m.locals.length - depth
  set { m with locals := m.locals.drop mine }
  (m.locals.take mine).flatten.forM putBack
  return a

/-- the variables that `p` picks as commands that set them, in order -/
def listing (start : Bytes) (p : Var → Bool) (onlySet : Bool) : Sh Unit := do
  let vars := (← get).vars.filter fun x => p x.2 && (!onlySet || x.2.value.isSome)
  let vars := vars.mergeSort fun a b => FileName.bytesLe a.1 b.1
  for (name, v) in vars do
    match v.value with
    | some value => put (start ++ name ++ 61 :: quoted value ++ [newline])
    | none => put (start ++ name ++ [newline])

end Sh
end JarLauncher.Shell
