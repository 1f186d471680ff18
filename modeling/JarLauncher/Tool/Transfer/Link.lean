import JarLauncher.Tool.Transfer.Carry

/-! The tool that gives files more names, or makes links that lead to paths. -/

namespace JarLauncher.Tool

open Unix
open Shell (text)

structure Linking extends Transfer where
  symbolic : Bool := false
  relative : Bool := false
  /-- a link is followed to the node that gets another name -/
  logical : Bool := false
  /-- a link at the goal is not taken for the directory that it leads to -/
  atItself : Bool := false
  /-- directories may have more names, as far as the user can help it -/
  ofDirs : Bool := false

namespace Linking

def take (how : Linking) (g : Given) : Work Linking := do
  match g.letter with
  | 'd' | 'F' => return { how with ofDirs := true }
  | 'f' => return { how with force := true, clash := .replace }
  | 'i' => return { how with force := false, clash := .ask }
  | 'L' => return { how with logical := true }
  | 'n' => return { how with atItself := true }
  | 'P' => return { how with logical := false }
  | 'r' => return { how with relative := true }
  | 's' => return { how with symbolic := true }
  | 't' =>
    let dir := g.value.getD []
    let fault ← if how.into.isNone then checkDir dir else pure none
    match fault with
    | none => return { how with toTransfer := ← how.toTransfer.take g }
    | some e =>
      if e = Errno.notDirectory then
        Work.fail [text "target ", Quoting.always dir, text " is not a directory"]
      Work.fail [text "failed to access ", Quoting.always dir, text ": ", reason e]
  | _ => return { how with toTransfer := ← how.toTransfer.take g }

def menu : Menu :=
  { letters := "bdfinrst:vFLPS:T"
    words := [⟨"backup", .optional, 'b'⟩, flag "directory" 'F', flag "no-dereference" 'n',
      flag "no-target-directory" 'T', flag "interactive" 'i', valued "suffix" 'S',
      valued "target-directory" 't', flag "logical" 'L', flag "physical" 'P',
      flag "relative" 'r', flag "symbolic" 's', flag "force" 'f', flag "verbose" 'v'] }

/-- make the link itself -/
def make (how : Linking) (x goal : Bytes) (t : FileTree) (cwd : FileTree.Id) :
    FileTree.Answer FileTree :=
  if how.symbolic then t.symlink cwd x goal else t.hardLink cwd x goal how.logical

/-- a path as it is from the directory of a link -/
def fromLink (x goal : Bytes) : Work Bytes := do
  let dir := match Path.bare goal with
    | (comps, _) =>
      let front : Bytes := if Path.isAbsolute goal then [Path.slash] else []
      let dir := front ++ (comps.dropLast.intersperse [Path.slash]).flatten
      if dir = [] then Path.here else dir
  match ← Canonical.componentsOf .nothing true dir, ← Canonical.componentsOf .nothing true x with
  | .ok dir, .ok comps => return Canonical.relative dir comps
  | _, _ => return x

/-- would a link take the place of the very entry that it is to lead to? -/
def isItself (how : Linking) (x goal : Bytes) (there : FileTree.Id) : Work Bool := do
  if how.symbolic && how.backup.isSome then return false
  match ← idOf x (how.symbolic || how.logical) with
  | .error _ => return false
  | .ok source =>
    let t ← Work.act Act.tree
    return source = there && (t.linkCount source = 1 || (← isSameEntry x goal))

/-- why a link could not be made -/
def complain (how : Linking) (x goal : Bytes) (e : Int) : Work Unit := do
  let words := if how.symbolic then
      text "failed to create symbolic link " :: Quoting.always goal ::
        (if x = [] ∨ e = Errno.nameTooLong then [text " -> ", Quoting.always x] else [])
    else text "failed to create hard link " :: Quoting.always goal ::
      (if e = Errno.alreadyExists ∨ e = Errno.noSpace then [] else [text " => ", Quoting.always x])
  Work.warn (words ++ [text ": ", reason e])

/-- what is done about something at the goal: nothing, or it is kept or goes, or the link fails -/
inductive Room where
  | none
  | some (kept : Option Bytes)
  | failed

def makeRoom (how : Linking) (x goal : Bytes) (e : Int) : Carrying Room := do
  let bad (words : List Bytes) : Carrying Room := do
    Work.warn words
    return .failed
  if !(how.force || how.clash = .ask || how.backup.isSome) then return .none
  match ← idOf goal false with
  | .error e =>
    if e = Errno.noEntry then return .none
    bad [text "failed to access ", Quoting.always goal, text ": ", reason e]
  | .ok there =>
    if (← Work.act Act.tree).isDir there then
      return ← bad [Quoting.name goal, text ": cannot overwrite directory"]
    let made := (← get).goals.contains (goal, there)
    if made then
      return ← bad [text "will not overwrite just-created ", Quoting.always goal, text " with ",
        Quoting.always x]
    if ← how.isItself x goal there then
      return ← bad [Quoting.always x, text " and ", Quoting.always goal, text " are the same file"]
    if e ≠ Errno.alreadyExists then return .some none
    if how.clash = .ask then
      if !(← Work.agrees [text "replace ", Quoting.always goal]) then
        Work.failed
        return .failed
    match how.backup with
    | none => return .some none
    | some way =>
      let kept ← way.pathFor how.suffix goal
      match ← Work.change fun t cwd => t.rename cwd goal kept with
      | none => return .some (some kept)
      | some e => bad [text "cannot backup ", Quoting.always goal, text ": ", reason e]

/-- link one path -/
def link (how : Linking) (tried : Option Int) (x goal : Bytes) : Carrying Unit := do
  let made (x : Bytes) (kept : Option Bytes) : Carrying Unit := do
    if !how.symbolic then Carrying.noteGoal goal
    if how.verbose then
      let front := (kept.map fun kept => Quoting.always kept ++ text " ~ ").getD []
      let arrow := text (if how.symbolic then " -> " else " => ")
      Work.putLine (front ++ Quoting.always goal ++ arrow ++ Quoting.always x)
  if !how.symbolic then
    match ← idOf x how.logical with
    | .error e =>
      if tried.isSome then
        Work.warn [text "failed to access ", Quoting.always x, text ": ", reason e]
        return
    | .ok n =>
      if tried.isSome && !how.ofDirs && (← Work.act Act.tree).isDir n then
        Work.warn [Quoting.name x, text ": hard link not allowed for directory"]
        return
  match tried with
  | none => made x none
  | some e =>
    let x ← if how.relative then fromLink x goal else pure x
    match ← how.makeRoom x goal e with
    | .failed => return
    | room =>
      let kept := match room with
        | .some kept => kept
        | _ => none
      let force := room matches .some _
      match ← forced force goal (how.make x goal) with
      | .ok _ => made x kept
      | .error e =>
        how.complain x goal e
        if let some kept := kept then
          let _ ← Work.change fun t cwd => t.rename cwd kept goal

/-- no link was made yet -/
def untried : Option Int := some Errno.alreadyExists

end Linking

def ln : Routine := fun args => do
  let (how, operands) ← Work.options Linking.menu args { : Linking } Linking.take
  if operands.isEmpty then Work.misuse [text "missing file operand"]
  if how.relative && !how.symbolic then
    Work.fail [text "cannot do --relative without --symbolic"]
  let first (x goal : Bytes) : Work (Option Int) :=
    if how.relative then return Linking.untried else Work.change (how.make x goal)
  let single (how : Linking) (tried : Option Int) (x goal : Bytes) : Work Unit := do
    let _ ← (how.link tried x goal).run {}
  let settled : Work Linking := return { how with toTransfer := ← how.toTransfer.settle }
  let inside (dir : Bytes) (sources : List Bytes) : Work Unit := do
    let how ← settled
    let mut ledger : Ledger :=
      { tracks := 1 < sources.length && how.force && !how.symbolic &&
          how.backup ≠ some .numbered }
    for x in sources do
      let goal := Path.join dir (baseOf x)
      let (_, after) ← (how.link (← first x goal) x goal).run ledger
      ledger := after
  if how.exact then
    if how.into.isSome then
      Work.fail [text "cannot combine --target-directory and --no-target-directory"]
    match operands with
    | [x, goal] => single (← settled) (← first x goal) x goal
    | [x] => Work.misuse [text "missing destination file operand after ", Quoting.always x]
    | _ => Work.misuse [text "extra operand ", Quoting.always (operands.getD 2 [])]
  else
    match how.into, operands with
    | none, [_] => inside Path.here operands
    | some dir, _ => inside dir operands
    | none, _ =>
      let last := operands.getLastD []
      let tried ← match operands with
        | [x, goal] => first x goal
        | _ => pure Linking.untried
      let mayBeDir := match tried with
        | none => false
        | some e => e = Errno.alreadyExists || e = Errno.notDirectory || e = Errno.invalid
      match ← if mayBeDir then checkDir last (!how.atItself) else pure tried, operands with
      | none, [x, goal] =>
        if mayBeDir then inside last [x] else single (← settled) none x goal
      | none, _ => inside last operands.dropLast
      | some _, [x, goal] => single (← settled) tried x goal
      | some e, _ => Work.fail [text "target ", Quoting.always last, text ": ", reason e]

end JarLauncher.Tool
