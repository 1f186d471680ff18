import JarLauncher.Tool.Canonical
import JarLauncher.Tool.Option
import JarLauncher.Tool.Transfer.Backup

/-! Tools that take paths apart, or tell what they lead to. -/

namespace JarLauncher.Tool

open Unix
open Shell (text newline)

/-- a path without a name at its end -/
def dirOf (path : Bytes) : Bytes :=
  let trimmed := (path.reverse.dropWhile (· = Path.slash)).dropWhile (· ≠ Path.slash)
  match (trimmed.dropWhile (· = Path.slash)).reverse with
  | [] => if trimmed ≠ [] ∨ (path ≠ [] ∧ path.all (· = Path.slash)) then [Path.slash] else Path.here
  | dir => dir

structure Basename where
  several : Bool := false
  suffix : Bytes := []
  nulEnded : Bool := false

def withoutSuffix (suffix base : Bytes) : Bytes :=
  if suffix.isSuffixOf base && suffix.length < base.length then
    base.take (base.length - suffix.length)
  else base

def basename : Routine := fun args => do
  let menu : Menu :=
    { letters := "as:z"
      words := [flag "multiple" 'a', valued "suffix" 's', flag "zero" 'z']
      ordered := true }
  let (how, operands) ← Work.options menu args { : Basename } fun how g =>
    return match g.letter with
    | 'a' => { how with several := true }
    | 's' => { how with several := true, suffix := g.value.getD [] }
    | _ => { how with nulEnded := true }
  let ending := if how.nulEnded then 0 else newline
  let shown (suffix x : Bytes) : Work Unit := Work.put (withoutSuffix suffix (baseOf x) ++ [ending])
  if how.several then
    if operands.isEmpty then Work.missingOperand
    operands.forM (shown how.suffix)
  else match operands with
    | [] => Work.missingOperand
    | [x] => shown [] x
    | [x, suffix] => shown suffix x
    | _ :: _ :: extra :: _ => Work.extraOperand extra

def dirname : Routine := fun args => do
  let (on, operands) ← Work.flags { letters := "z", words := [flag "zero" 'z'] } args
  if operands.isEmpty then Work.missingOperand
  operands.forM fun x => Work.put (dirOf x ++ [if on.contains 'z' then 0 else newline])

def pwd : Routine := fun args => do
  let (on, operands) ← Work.flags { letters := "LP", words := [flag "logical" 'L',
    flag "physical" 'P'] } args
  if !operands.isEmpty then Work.complain [text "ignoring non-option arguments"]
  let d ← get
  let named := (d.env.lookup (text "PWD")).filter fun x =>
    on.getLast? = some 'L' && Path.isAbsolute x && !(Path.bare x).1.any FileTree.isDots
  let here : FileTree.Answer Bytes ← Work.act (Act.ask fun p s =>
    match named.filter fun x => (s.find p x).toOption = some (s.cwd p) with
    | some x => .ok x
    | none => s.tree.pathOf (s.cwd p))
  match here with
  | .ok path => Work.putLine path
  | .error _ => Work.fail [text "couldn't find directory entry in '..' with matching i-node"]

structure Readlink where
  need : Option Presence := none
  open_ : Bool := false
  verbose : Bool := false
  nulEnded : Bool := false

def readlink : Routine := fun args => do
  let menu : Menu :=
    { letters := "efmnqsvz"
      words := [flag "canonicalize" 'f', flag "canonicalize-existing" 'e',
        flag "canonicalize-missing" 'm', flag "no-newline" 'n', flag "quiet" 'q',
        flag "silent" 's', flag "verbose" 'v', flag "zero" 'z'] }
  let (how, operands) ← Work.options menu args { : Readlink } fun how g =>
    return match g.letter with
    | 'e' => { how with need := some .all }
    | 'f' => { how with need := some .allButLast }
    | 'm' => { how with need := some .nothing }
    | 'n' => { how with open_ := true }
    | 'v' => { how with verbose := true }
    | 'z' => { how with nulEnded := true }
    | _ => { how with verbose := false }
  if operands.isEmpty then Work.missingOperand
  if how.open_ && 1 < operands.length then
    Work.complain [text "ignoring --no-newline with multiple arguments"]
  let ending := if how.open_ && operands.length = 1 then []
    else [if how.nulEnded then 0 else newline]
  for x in operands do
    let answer ← match how.need with
      | some need => canonical need x
      | none => do
        match ← Work.node? x false with
        | .error e => pure (.error e)
        | .ok n => match n.content with
          | .link target => pure (.ok target)
          | _ => pure (.error Errno.invalid)
    match answer with
    | .ok target => Work.put (target ++ ending)
    | .error e =>
      Work.failed
      if how.verbose then Work.complain [Quoting.name x, text ": ", reason e]

structure Realpath where
  need : Presence := .allButLast
  /-- links are followed -/
  follow : Bool := true
  /-- dots are taken out before links are followed -/
  logical : Bool := false
  quiet : Bool := false
  nulEnded : Bool := false
  /-- paths are shown as they are from here, those below `base` if there is one -/
  from_ : Option Bytes := none
  base : Option Bytes := none

namespace Realpath

def take (how : Realpath) (g : Given) : Work Realpath :=
  return match g.letter with
    | 'e' => { how with need := .all }
    | 'm' => { how with need := .nothing }
    | 'L' => { how with follow := false, logical := true }
    | 's' => { how with follow := false, logical := false }
    | 'P' => { how with follow := true, logical := false }
    | 'q' => { how with quiet := true }
    | 'z' => { how with nulEnded := true }
    | 'b' => { how with base := g.value }
    | _ => { how with from_ := g.value }

def menu : Menu :=
  { letters := "eLmPqsz"
    words := [flag "canonicalize-existing" 'e', flag "canonicalize-missing" 'm',
      valued "relative-to" 't', valued "relative-base" 'b', flag "quiet" 'q',
      flag "strip" 's', flag "no-symlinks" 's', flag "zero" 'z', flag "logical" 'L',
      flag "physical" 'P'] }

/-- the components from the root that a path leads to -/
def componentsOf (how : Realpath) (path : Bytes) : Work (FileTree.Answer (List Bytes)) := do
  let first ← Canonical.componentsOf how.need how.follow path
  match first with
  | .ok comps =>
    if how.logical then Canonical.componentsOf how.need true (Canonical.pathOf comps)
    else return first
  | .error _ => return first

/-- the components of a directory that paths are shown from -/
def dirOf (how : Realpath) (path : Bytes) : Work (List Bytes) := do
  let refuse (e : Int) : Work (List Bytes) := Work.fail [Quoting.name path, text ": ", reason e]
  match ← how.componentsOf path with
  | .error e => refuse e
  | .ok comps =>
    if how.need = .all && !(← isDirPath (Canonical.pathOf comps)) then
      refuse Errno.notDirectory
    else return comps

end Realpath

def realpath : Routine := fun args => do
  let (how, operands) ← Work.options Realpath.menu args { : Realpath } Realpath.take
  if operands.isEmpty then Work.missingOperand
  let from_ ← (how.from_ <|> how.base).mapM how.dirOf
  let base ← how.base.mapM how.dirOf
  let (from_, base) := match from_, base with
    | some from_, some base => if base.isPrefixOf from_ then (some from_, some base)
      else (none, some base)
    | from_, base => (from_, base)
  for x in operands do
    match ← how.componentsOf x with
    | .ok comps =>
      let shown := match from_ with
        | some from_ =>
          if base.all fun base => base.isPrefixOf comps then Canonical.relative from_ comps
          else Canonical.pathOf comps
        | none => Canonical.pathOf comps
      Work.put (shown ++ [if how.nulEnded then 0 else newline])
    | .error e =>
      Work.failed
      if !how.quiet then Work.complain [Quoting.name x, text ": ", reason e]

end JarLauncher.Tool
