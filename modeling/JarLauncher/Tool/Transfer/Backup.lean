import JarLauncher.Tool.Place

/-! Files that are kept under another name when something else takes theirs. -/

namespace JarLauncher.Tool

open Unix
open Shell (text)

/-- the last part of a path -/
def baseOf (path : Bytes) : Bytes :=
  match (Path.bare path).1.getLast? with
  | some name => name
  | none => if path = [] then [] else [Path.slash]

/-- the node that a path names, by number -/
def idOf (path : Bytes) (followLast : Bool) : Work (FileTree.Answer FileTree.Id) :=
  Work.act (Act.ask fun p s => s.find p path followLast)

/-- how the name is made that a file is kept under -/
inductive Backup where
  | simple
  /-- numbered if there are numbered ones already -/
  | existing
  | numbered
  deriving DecidableEq

namespace Backup

/-- the words that ask for a way, or for none; those that mean the same in a row -/
def words : List (String × Option Backup) :=
  [("none", none), ("off", none), ("simple", some simple), ("never", some simple),
   ("existing", some existing), ("nil", some existing), ("numbered", some numbered),
   ("t", some numbered)]

/-- the way that a word asks for, or else the environment -/
def asked (word : Option Bytes) : Work (Option Backup) := do
  match word.filter (· ≠ []) with
  | some word => Work.choose "backup type" words word
  | none =>
    match ((← get).env.lookup (text "VERSION_CONTROL")).filter (· ≠ []) with
    | some word => Work.choose "$VERSION_CONTROL" words word
    | none => return some existing

/-- what stands behind the name of a file that is kept simply -/
def suffix (said : Option Bytes) : Work Bytes := do
  let said := said <|> (← get).env.lookup (text "SIMPLE_BACKUP_SUFFIX")
  return (said.filter fun s => s ≠ [] && !s.contains Path.slash).getD (text "~")

def numbered_ (n : Nat) : Bytes := text ".~" ++ Shell.decimal n ++ text "~"

/-- the number of a name that a file is kept under -/
def number? (base name : Bytes) : Option Nat := do
  let digits := ((name.drop base.length).drop 2).dropLast
  let n ← Shell.natOf? digits
  if name = base ++ numbered_ n ∧ 0 < n then some n else none

/-- the path that a file is kept under -/
def pathFor (way : Backup) (suffix path : Bytes) : Work Bytes := do
  let path := match path.reverse.dropWhile (· = Path.slash) with
    | [] => path
    | signs => signs.reverse
  let taken ← Work.act (Act.ask fun p s =>
    match s.tree.place (s.cwd p) path with
    | .ok place => (s.tree.entries place.dir).filterMap fun e => number? place.name e.1
    | .error _ => [])
  let numbers := way = .numbered ∨ (way = .existing ∧ taken ≠ [])
  return path ++ if numbers then numbered_ (taken.foldl max 0 + 1) else suffix

end Backup
end JarLauncher.Tool
