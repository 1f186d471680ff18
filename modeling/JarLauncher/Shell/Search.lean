import JarLauncher.Shell.Redirection
import JarLauncher.Shell.CommandPath

/-! What a name stands for as a command: a function, a command of the shell, or a file in one of the
directories of the path. Files that were found are remembered by their directory's place in the
path. -/

namespace JarLauncher.Shell

open Unix

/-- what a name stands for -/
inductive Meaning where
  | unknown
  | own (o : Own)
  | function (line : Nat) (body : Command)
  /-- a file, in the directory with this place in the path; none if the name is a path itself -/
  | file (index : Option Nat)

/-- how a name is looked for -/
structure Looking where
  path : Bytes
  /-- the path is not the shell's own -/
  isOther : Bool := false
  noFunctions : Bool := false
  /-- the path is not looked at yet -/
  onlyRegular : Bool := false
  /-- it is told when nothing is found -/
  complains : Bool := false
  /-- a path must be there -/
  mustExist : Bool := false

namespace Search

/-- what was found in the path -/
inductive Outcome where
  | program (index : Nat)
  | builtin
  /-- a file that defines the function -/
  | definition (path : Bytes)
  | missing (errno : Int)

/-- The first of the directories with a program, or with what its mark says. If the program was in
the one with the place `before`, those whose paths do not depend on the working directory are not
looked at again. -/
def firstFrom (s : System) (p : Pid) (name : Bytes) (wanted : CommandPath.Mark → Bool)
    (before : Option Nat) (errno : Int) (index : Nat) : List CommandPath.Dir → Outcome
  | [] => .missing errno
  | d :: ds =>
    let onward (errno : Int) : Outcome := firstFrom s p name wanted before errno (index + 1) ds
    if d.mark = some .builtins then if wanted .builtins then .builtin else onward errno
    else if d.mark.any fun m => !wanted m then onward errno
    else if d.dir.head? = some 47 ∧ before.any (index ≤ ·) then
      if before = some index then .program index else onward errno
    else match s.find p (CommandPath.fileIn d name) with
      | .error e => onward (if e = Errno.noEntry ∨ e = Errno.notDirectory then errno else e)
      | .ok n =>
        let node := s.tree.node n
        let (isFile, runs) := match node.content with
          | .program _ => (true, true)
          | .file _ => (true, node.mode &&& 0o111 ≠ 0)
          | _ => (false, false)
        if isFile ∧ d.mark.isSome then .definition (CommandPath.fileIn d name)
        else if runs then .program index
        else onward Errno.accessDenied

def remember (name : Bytes) (found : Found) : Sh Unit := modify fun m =>
  { m with remembered := if m.remembered.any (·.name = name)
      then m.remembered.map fun r => if r.name = name then ⟨name, found, false⟩ else r
      else m.remembered ++ [⟨name, found, false⟩] }

def forget (name : Bytes) : Sh Unit := modify fun m =>
  { m with remembered := m.remembered.filter fun r => r.name ≠ name }

/-- runs the commands of a file -/
abbrev Loader := Bytes → Sh Unit

variable (load : Loader)

/-- Look in the path, and remember where a file was found. A file that defines a function is run,
and must have defined it. -/
def inPath (l : Looking) (name : Bytes) (keeps : Bool) (before : Option Remembered) :
    Sh Meaning := do
  let found (i : Nat) : Sh Meaning := do
    if keeps then remember name (.file i)
    return .file (some i)
  let own := Own.ofName? name
  let wanted : CommandPath.Mark → Bool
    | .builtins => own.isSome
    | .functions => !l.noFunctions
  let all := CommandPath.dirs l.path
  let place := before.bind fun r => match r.found with
    | .file i => some i
    | .builtin => CommandPath.ownPlace? l.path
  match ← Sh.act (Act.ask fun p s => firstFrom s p name wanted place Errno.noEntry 0 all) with
  | .program i => found i
  | .builtin =>
    if keeps then remember name .builtin
    return own.elim .unknown .own
  | .definition path =>
    load path
    match (← get).functions.lookup name with
    | some (line, body) => return .function line body
    | none => Sh.fail [name, text " not defined in ", path]
  | .missing e =>
    if keeps && before.isSome then forget name
    if l.complains then
      Sh.complain [name, text ": ", text (Redirection.reason .run e)]
    return .unknown

/-- look for what a name stands for -/
def find (l : Looking) (name : Bytes) : Sh Meaning := do
  let m ← get
  if name.contains 47 then
    if l.mustExist then
      if !(← Sh.act (Act.ask fun p s => (s.find p name).isOk)) then return .unknown
    return .file none
  let keeps := !l.isOther
  let own := (Own.ofName? name).filter fun o =>
    o.regular || l.isOther || !CommandPath.findsFilesFirst l.path
  match m.functions.lookup name with
  | some (line, body) =>
    if !l.noFunctions then return .function line body
    if let some o := own then return .own o
    if l.onlyRegular then return .unknown
    inPath load l name false none
  | none =>
    let before := m.remembered.find? fun r => r.name = name
    match before with
    | some ⟨_, .file i, stale⟩ =>
      if l.onlyRegular then return .unknown
      if l.isOther then
        if let some o := own then return .own o
        return ← inPath load l name false none
      if !stale then return .file (some i)
    | some ⟨_, .builtin, false⟩ =>
      if let some o := Own.ofName? name then
        return if l.onlyRegular && !o.regular then .unknown else .own o
    | some ⟨_, .builtin, true⟩ | none => pure ()
    if let some o := own then
      if before.isSome && l.onlyRegular && !o.regular then return .unknown
      if keeps then remember name .builtin
      return .own o
    if l.onlyRegular then return .unknown
    inPath load l name keeps before

end Search
end JarLauncher.Shell
