import JarLauncher.Shell.Variable

/-! The working directory, which a shell names by the way it was reached. -/

namespace JarLauncher.Shell.Directory

open Unix

/-- one component more; the ones before it are in `done`, the last one first -/
def advance (done : List Bytes) (component : Bytes) : List Bytes :=
  if component = [] ∨ component = Path.here then done
  else if component = Path.up then done.drop 1
  else component :: done

/-- A path from a directory with `.` and `..` taken out by name. Two slashes in front, and no more,
stay. -/
def resolve (dir path : Bytes) : Bytes :=
  let double (bs : Bytes) : Bool :=
    match bs with
    | 47 :: 47 :: 47 :: _ => false
    | 47 :: 47 :: _ => true
    | _ => false
  let start : List Bytes :=
    if Path.isAbsolute path then [] else ((Path.splitOn 47 dir).filter (· ≠ [])).reverse
  let comps := ((Path.splitOn 47 path).foldl advance start).reverse
  let body := (comps.intersperse [47]).flatten
  (if double (if Path.isAbsolute path then path else dir) then [47, 47] else [47]) ++ body

/-- the directory as the system names it; none is told -/
def physical : Sh Bytes := do
  match ← Sh.act (Act.ask fun p s => s.tree.pathOf (s.cwd p)) with
  | .ok path => return path
  | .error e =>
    Sh.complain [text "getcwd() failed: ", text (Errno.text e)]
    return []

/-- remember the directory by a name, or by the system's -/
def enter (name : Option Bytes) : Sh Unit := do
  match name with
  | some dir => modify fun m => { m with dir := dir, physicalDir := none }
  | none =>
    let dir ← physical
    modify fun m => { m with dir := dir, physicalDir := some dir }
  Sh.setVar (text "PWD") (some (← get).dir) true

/-- the directory as the system names it, which is asked for once -/
def known : Sh Bytes := do
  match (← get).physicalDir with
  | some dir => return dir
  | none =>
    let dir ← physical
    modify fun m => { m with physicalDir := some dir }
    Sh.setVar (text "PWD") (some (← get).dir) true
    return dir

def leave : Sh Unit := do
  Sh.setVar (text "OLDPWD") (some (← get).dir) true

/-- change to a directory; false if that cannot be -/
def change (byName : Bool) (path : Bytes) : Sh Bool := do
  let m ← get
  let name := if !byName || (m.dir = [] && !Path.isAbsolute path) then none
    else some (resolve m.dir path)
  let goal := name.getD path
  let changed ← Sh.act (Act.call fun p s =>
    match s.find p goal with
    | .ok n =>
      if s.tree.isDir n then (true, s.modify p fun x => { x with cwd := n }) else (false, s)
    | .error _ => (false, s))
  if !changed then return false
  leave
  enter name
  modify fun m => { m with
    remembered := m.remembered.map fun r => if Sh.isSettled m.path r then r
      else { r with stale := true } }
  return true

/-- a path that is not looked for in other directories -/
def isDirect (path : Bytes) : Bool :=
  match path with
  | [46] | 46 :: 47 :: _ | [46, 46] | 46 :: 46 :: 47 :: _ | 47 :: _ => true
  | _ => false

/-- the directories of a list that a path is looked for in, and whether that is told -/
def candidates (list path : Bytes) : List (Bytes × Bool) :=
  (Path.splitOn 58 list).map fun d => (if d = [] then path else d ++ 47 :: path, d ≠ [])

end JarLauncher.Shell.Directory
