import JarLauncher.Tool.Asking
import JarLauncher.Tool.Canonical
import JarLauncher.Tool.Transfer.Choice

/-! Copies of files and of all that directories hold. What was copied is remembered, so that nothing
is copied into itself, nothing that was just made is lost, and names of one node stay names of one
node where that is asked for. -/

namespace JarLauncher.Tool

open Unix
open Shell (text)

/-- what was carried so far -/
structure Ledger where
  /-- goals are remembered, since there are several -/
  tracks : Bool := false
  /-- sources are remembered too, and not copied again -/
  warns : Bool := false
  sources : List (Bytes × FileTree.Id) := []
  goals : List (Bytes × FileTree.Id) := []
  /-- the paths that nodes were copied to -/
  copies : List (FileTree.Id × Bytes) := []
  /-- a directory was made for the present operand -/
  madeDir : Bool := false

abbrev Carrying := StateT Ledger Work

/-- the two paths name the same entry of the same directory -/
def isSameEntry (a b : Bytes) : Work Bool :=
  Work.act (Act.ask fun p s =>
    match s.tree.place (s.cwd p) a, s.tree.place (s.cwd p) b with
    | .ok a, .ok b => a.dir = b.dir && a.name = b.name
    | _, _ => false)

def arrow (source goal : Bytes) : Bytes :=
  Quoting.always source ++ text " -> " ++ Quoting.always goal

/-- where something went, and what was kept -/
def putArrow (front : String) (source goal : Bytes) (kept : Option Bytes) : Work Unit :=
  Work.putLine (text front ++ arrow source goal ++ match kept with
    | some kept => text " (backup: " ++ Quoting.always kept ++ text ")"
    | none => [])

/-- a path, or the working directory if it is empty -/
def orHere (path : Bytes) : Bytes := if path = [] then Path.here else path

/-- may a goal that is there be replaced, though it may be the source itself? -/
inductive Verdict where
  | fine
  /-- nothing is left to do -/
  | needless
  | same
  deriving DecidableEq

/-- Judge a source and a goal that is there. Links make the difference: two names of one node, a
link to the goal, or a goal that is a link and is removed before it is opened. -/
def judge (how : Transfer) (moves : Bool) (x goal : Bytes) (source there : FileTree.Id) :
    Work Verdict := do
  let t ← Work.act Act.tree
  let isLink (n : FileTree.Id) : Bool := (t.content n).isLink
  let isSame := source = there
  let never := moves ∨ how.following = some .never
  if isSame ∧ how.means = .hardLink then return .needless
  let mut a := source
  let mut b := there
  if never then
    if isLink source && isLink there then
      if ← isSameEntry x goal then return .same
      if how.backup.isSome || !isSame then return .fine
      return if moves then .same else .needless
  else
    if !isSame then return .fine
    match ← idOf x false, ← idOf goal false with
    | .ok m, .ok n =>
      a := m
      b := n
    | _, _ => return .fine
    if isLink a && isLink b && how.removes then return .fine
  if how.backup.isSome then
    if a ≠ b then
      return if !moves ∧ !never ∧ isLink a ∧ !isLink b then .same else .fine
    return if ← isSameEntry x goal then .same else .fine
  if moves || how.removes then
    if isLink b then return .fine
    if a = b ∧ 1 < t.linkCount b then
      if !(← isSameEntry x goal) then return if moves then .same else .fine
  if !isLink a ∧ !isLink b ∧ a ≠ b then return .fine
  if moves && isLink source && 1 < t.linkCount b then
    if let .ok path ← canonical .all x then
      return if ← isSameEntry path goal then .same else .fine
  if how.means = .symbolicLink && isLink b then return .fine
  if never then
    match ← idOf x true, ← idOf goal true with
    | .ok m, .ok n =>
      if m ≠ n then return .fine
      if how.means = .hardLink then return if isLink b then .fine else .needless
    | _, _ => return .fine
  return .same

/-- what is to be done about a goal that is there -/
inductive Way where
  | done (ok : Bool)
  /-- go on; the goal is there no more, or it is, and it may have been kept under another path -/
  | go (isNew : Bool) (kept : Option Bytes)

/-- what stays, since nobody wants it replaced -/
def leave (how : Transfer) (goal : Bytes) (ok : Bool) : Work Way := do
  if how.clash = .refuse then Work.complain [text "not replacing ", Quoting.always goal]
  else if how.debug then Work.putLine (text "skipped " ++ Quoting.always goal)
  if !ok then Work.failed
  return .done ok

/-- may what is there be replaced? -/
def mayReplace (how : Transfer) (goal : Bytes) : Work Bool :=
  match how.clash with
  | .replace => return true
  | .ask => Work.agrees [text "overwrite ", Quoting.always goal]
  | _ => return false

/-- does the name under which the goal is to be kept belong to the source? -/
def isKeptName (how : Transfer) (x goal : Bytes) (source : FileTree.Id) : Work Bool := do
  if baseOf x ≠ baseOf goal ++ how.suffix then return false
  return (← idOf (unslashed goal ++ how.suffix) true).toOption = some source

/-- make room at a goal that is there -/
def makeRoom (how : Transfer) (moves isOperand : Bool) (x goal : Bytes)
    (source there : FileTree.Id) : Carrying Way := do
  let bad (words : List Bytes) : Carrying Way := do
    Work.warn words
    return .done false
  let at_ := orHere goal
  let verdict ← judge how moves x at_ source there
  if verdict = .same ∧ how.clash ≠ .skip ∧ how.clash ≠ .refuse then
    return ← bad [Quoting.always x, text " and ", Quoting.always goal, text " are the same file"]
  let t ← Work.act Act.tree
  let isDir := t.isDir source
  if how.update && !isDir && (t.node source).changed ≤ (t.node there).changed then
    return ← leave how goal true
  if moves || !isDir then
    if !(← mayReplace how goal) then return ← leave how goal (how.clash = .skip)
  if verdict = .needless then return .done true
  if !t.isDir there then
    if isDir && !(moves && how.backup.isSome) then
      return ← bad [text "cannot overwrite non-directory ", Quoting.always goal,
        text " with directory ", Quoting.always x]
    let made := (← get).goals.contains (at_, there)
    if isOperand && how.backup ≠ some .numbered && made then
      return ← bad [text "will not overwrite just-created ", Quoting.always goal, text " with ",
        Quoting.always x]
  else if !isDir && !(moves && how.backup.isSome) then
    return ← bad [text "cannot overwrite directory ", Quoting.always goal,
      text " with non-directory"]
  match how.backup with
  | some way =>
    if !FileTree.isDots (baseOf x) && (moves || !t.isDir there) then
      if way ≠ .numbered then
        if ← isKeptName how x at_ source then
          return ← bad [text "backing up ", Quoting.always goal,
            text " might destroy source;  ", Quoting.always x,
            text (if moves then " not moved" else " not copied")]
      let kept ← way.pathFor how.suffix at_
      if let some e ← Work.change fun t cwd => t.rename cwd at_ kept then
        return ← bad [text "cannot backup ", Quoting.always goal, text ": ", reason e]
      return .go true (some kept)
  | none => pure ()
  let node := t.node source
  let replaced : Bool := how.removes || (!how.bare &&
    ((how.keepsLinks && 1 < t.linkCount there) ||
      (how.following = some .never && !node.content.isFile)))
  if !moves && !t.isDir there && replaced then
    match ← Work.change fun t cwd => t.unlink cwd at_ with
    | none => if how.verbose then Work.putLine (text "removed " ++ Quoting.always goal)
    | some e => return ← bad [text "cannot remove ", Quoting.always goal, text ": ", reason e]
    return .go true none
  return .go false none

/-- copy what can be read from one descriptor to another -/
def pour (source goal : Nat) : Work (Option (Bool × Int)) :=
  Work.loop () fun () => do
    match ← Work.act (Act.read source 131072) with
    | .error e => return .error (some (true, e))
    | .ok piece =>
      if piece.isEmpty then return .error none
      match ← Work.act (Act.writeAll goal piece) with
      | none => return .ok ()
      | some e => return .error (some (false, e))

/-- change what is said about the node that a path names -/
def amend (path : Bytes) (follow : Bool) (f : Node → Node) : Work Unit := do
  let _ ← Work.act (Act.call fun p s =>
    match s.find p path follow with
    | .ok n => ((), s.withTree (s.tree.modify n f))
    | .error _ => ((), s))

/-- open a goal for writing, made with permissions if it is new -/
def openGoal (how : Transfer) (goal : Bytes) (isNew : Bool) (mode : Nat) :
    Work (Option (Nat × Bool)) := do
  let refuse (e : Int) : Work (Option (Nat × Bool)) := do
    Work.warn [text "cannot create regular file ", Quoting.always goal, text ": ", reason e]
    return none
  let openNew : Work (Option (Nat × Bool)) := do
    if let .ok n ← idOf goal false then
      if (← Work.act Act.tree).content n |>.isLink then
        Work.warn [text "not writing through dangling symlink ", Quoting.always goal]
        return none
    match ← Work.act (Act.openPath goal { Access.write with fresh := true } 0 false mode) with
    | .ok fd => return some (fd, true)
    | .error e =>
      refuse (if e = Errno.isDirectory ∧ goal.getLast? = some Path.slash then Errno.notDirectory
        else e)
  if isNew then openNew
  else
    let access : Access := { readable := false, writable := true, truncates := !how.bare }
    match ← Work.act (Act.openPath goal access) with
    | .ok fd => return some (fd, false)
    | .error e =>
      if e = Errno.noEntry then openNew
      else if !how.force then refuse e
      else
        match ← Work.change fun t cwd => t.unlink cwd goal with
        | none =>
          if how.verbose then Work.putLine (text "removed " ++ Quoting.always goal)
          openNew
        | some e =>
          Work.warn [text "cannot remove ", Quoting.always goal, text ": ", reason e]
          return none

/-- copy what a file holds -/
def copyData (x goal : Bytes) (source : Node) (input output : Nat) : Work Bool := do
  if let .program _ := source.content then
    Work.act (Act.modify fun p s => match s.opened? p output with
      | some (_, o) => s.withTree (s.tree.set o.node source.content)
      | none => s)
    return true
  match ← pour input output with
  | none => return true
  | some (reading, e) =>
    if e = Errno.tooLarge ∧ source.content.isFile then
      Work.warn [text "error copying ", Quoting.always x, text " to ", Quoting.always goal,
        text ": ", reason e]
    else
      Work.warn [text (if reading then "error reading " else "error writing "),
        Quoting.always (if reading then x else goal), text ": ", reason e]
    return false

/-- what is said about a copy -/
def amendCopy (how : Transfer) (goal : Bytes) (follow isNew : Bool) (usual : Nat) (source : Node) :
    Work Unit := do
  if how.keepsTimes then amend goal follow fun n => { n with changed := source.changed }
  if !follow then return
  let mode ← if how.keepsMode then pure (some source.mode)
    else if how.mode.isSome then pure how.mode
    else if how.resetsMode ∧ isNew then pure (some (usual - (usual &&& (← Work.mask))))
    else pure none
  if let some mode := mode then amend goal follow fun n => { n with mode := mode }

/-- copy a file, or what can be read from something else -/
def copyFile (how : Transfer) (x goal : Bytes) (source : Node) (isNew : Bool) : Work Bool := do
  match ← Work.act (Act.openPath x Access.read) with
  | .error e =>
    Work.warn [text "cannot open ", Quoting.always x, text " for reading: ", reason e]
    return false
  | .ok input =>
    let mode := (how.mode.map fun _ => 0o600).getD (source.mode &&& 0o777)
    let done ← match ← openGoal how goal isNew mode with
      | none => pure false
      | some (output, isNew) => do
        let done ← if how.bare then pure true
          else if how.clones then do
            Work.warn [text "failed to clone ", Quoting.always goal, text " from ",
              Quoting.always x, text ": ", reason Errno.notSupported]
            if isNew then
              let _ ← Work.change fun t cwd => t.unlink cwd goal
            pure false
          else copyData x goal source input output
        if done then
          amendCopy how goal true isNew 0o666 source
          if how.debug then
            Work.putLine (text "copy offload: yes, reflink: unsupported, sparse detection: no")
        Work.act (Act.close output)
        pure done
    Work.act (Act.close input)
    return done

/-- do something that gives a path to a node, and make room for it if that helps -/
def forced (force : Bool) (goal : Bytes)
    (f : FileTree → FileTree.Id → FileTree.Answer FileTree) : Work (FileTree.Answer Bool) := do
  match ← Work.change f with
  | none => return .ok false
  | some e =>
    if !force || e ≠ Errno.alreadyExists then return .error e
    match ← Work.change fun t cwd => do f (← t.unlink cwd goal) cwd with
    | none => return .ok true
    | some e => return .error e

/-- a hard link to a path -/
def linkTo (x goal : Bytes) (force follows verbose : Bool) : Work Bool := do
  match ← forced force goal fun t cwd => t.hardLink cwd x goal follows with
  | .ok replaced =>
    if replaced && verbose then Work.putLine (text "removed " ++ Quoting.always goal)
    return true
  | .error e =>
    Work.warn [text "cannot create hard link ", Quoting.always goal, text " to ", Quoting.always x,
      text ": ", reason e]
    return false

/-- make something at a goal that is none of what directories and files are made of -/
def makeSpecial (kind goal : Bytes) (content : Content) (mode : Nat) : Work Bool := do
  match ← Work.alter fun p s => do
      let place ← s.tree.place (s.cwd p) goal
      return s.withTree (← s.tree.create place content (s.permitted p mode)).2 with
  | none => return true
  | some e =>
    Work.warn [text "cannot create ", kind, text " ", Quoting.always goal, text ": ", reason e]
    return false

/-- is the directory of a path the working directory? -/
def isInWorkDir (path : Bytes) : Work Bool :=
  Work.act (Act.ask fun p s => match s.tree.place (s.cwd p) path with
    | .ok place => place.dir = s.cwd p
    | .error _ => true)

/-- make a goal of what is no directory -/
def make (how : Transfer) (x goal : Bytes) (source : Node) (isNew follows : Bool) : Work Bool := do
  match how.means, source.content with
  | .symbolicLink, _ =>
    if !Path.isAbsolute x then
      if !(← isInWorkDir goal) then
        Work.warn [Quoting.name goal,
          text ": can make relative symbolic links only in current directory"]
        return false
    match ← forced how.force goal fun t cwd => t.symlink cwd x goal with
    | .ok _ => return true
    | .error e =>
      Work.warn [text "cannot create symbolic link ", Quoting.always goal, text " to ",
        Quoting.always x, text ": ", reason e]
      return false
  | .hardLink, _ => linkTo x goal (how.force || how.clash = .ask) follows false
  | .copy, .link target =>
    match ← forced how.force goal fun t cwd => t.symlink cwd target goal with
    | .ok _ =>
      amendCopy how goal false isNew 0 source
      return true
    | .error e =>
      Work.warn [text "cannot create symbolic link ", Quoting.always goal, text ": ", reason e]
      return false
  | .copy, content =>
    let isRegular : Bool := match content with
      | .file _ | .program _ => true
      | _ => false
    if isRegular || !how.recursive || how.contents then return ← copyFile how x goal source isNew
    let made ← match content with
      | .pipe .. => makeSpecial (text "fifo") goal (.pipe ByteArray.empty 0) source.mode
      | content => makeSpecial (text "special file") goal content source.mode
    if made then amendCopy how goal true isNew 0o666 source
    return made

/-- how a copy went -/
structure Outcome where
  ok : Bool
  /-- something was to be copied into itself -/
  intoItself : Bool := false

/-- what is known of a goal before it is looked at -/
inductive Freshness where
  | unknown
  /-- it was not there a moment ago -/
  | presumed
  /-- the directory that it is to be in was just made -/
  | sure
  deriving DecidableEq

namespace Carrying

/-- remember where a node goes; answers where it went before -/
def remember (source : FileTree.Id) (goal : Bytes) : Carrying (Option Bytes) := do
  match (← get).copies.lookup source with
  | some earlier => return some earlier
  | none =>
    modify fun l => { l with copies := (source, goal) :: l.copies }
    return none

def forget (source : FileTree.Id) : Carrying Unit :=
  modify fun l => { l with copies := l.copies.filter fun c => c.1 ≠ source }

/-- note an operand's goal -/
def noteGoal (goal : Bytes) : Carrying Unit := do
  if (← get).tracks then
    if let .ok n ← idOf goal false then
      modify fun l => { l with goals := (goal, n) :: l.goals }

/-- an operand that was given before, under this name -/
def isRepeated (x : Bytes) (source : FileTree.Id) : Carrying Bool := do
  (← get).sources.anyM fun (path, n) =>
    if n = source then (isSameEntry path x : Work Bool) else pure false

end Carrying

open Carrying

/-- Copy what a path names. `top` are the operand and its goal, `above` the directories that the
path lies in; `fuel` bounds how deep. -/
def carry (how : Transfer) (top : Bytes × Bytes) :
    Nat → Bool → Freshness → List FileTree.Id → Bytes → Bytes → Carrying Outcome
  | 0, _, _, _, _, _ => return ⟨true, false⟩
  | fuel + 1, isOperand, freshness, above, x, goal => do
    let bad (words : List Bytes) : Carrying Outcome := do
      Work.warn words
      return ⟨false, false⟩
    let at_ := orHere goal
    let following := how.following.getD .never
    match ← idOf x (following ≠ .never) with
    | .error e => bad [text "cannot stat ", Quoting.always x, text ": ", reason e]
    | .ok source =>
    let t ← Work.act Act.tree
    let node := t.node source
    let isDir := node.content.isDir
    if isDir && !how.recursive then
      return ← bad [text (if how.mode.isSome then "omitting directory "
        else "-r not specified; omitting directory "), Quoting.always x]
    if isOperand && (← get).warns then
      if !isDir && how.backup.isNone then
        if ← isRepeated x source then
          Work.complain [text "warning: source file ", Quoting.always x,
            text " specified more than once"]
          return ⟨true, false⟩
      modify fun l => { l with sources := (x, source) :: l.sources }
    let follows : Bool := following = .always || (following = .operands && isOperand)
    let isRegular : Bool := match node.content with
      | .file _ | .program _ => true
      | _ => false
    let asRegular : Bool := (!how.recursive || how.contents) && !isDir && !node.content.isLink
    let atItself : Bool := (!isRegular && !asRegular) || how.means ≠ .copy || how.backup.isSome ||
      how.removes
    let there ← if freshness = .sure ∨ (freshness = .presumed ∧ !atItself) then
        pure (.error Errno.noEntry)
      else idOf at_ !atItself
    let way ← match there with
      | .ok there => makeRoom how false isOperand x goal source there
      | .error e =>
        if e = Errno.noEntry then pure (.go true none)
        else if e = Errno.linkLoop ∧ how.force then pure (.go false none)
        else do
          Work.warn [text "cannot stat ", Quoting.always goal, text ": ", reason e]
          pure (.done false)
    match way with
    | .done ok => return ⟨ok, false⟩
    | .go isNew kept =>
    if isOperand && (← get).tracks && how.backup.isNone then
      if let .ok n ← idOf at_ false then
        if t.nodes.size ≤ n || (t.content n).isLink then
          if (← get).goals.contains (at_, n) then
            return ← bad [text "will not copy ", Quoting.always x,
              text " through just-created symlink ", Quoting.always goal]
    if how.verbose && !isDir then putArrow "" x goal kept
    let earlier ← if how.recursive && isDir then
        if isOperand then remember source at_ else pure ((← get).copies.lookup source)
      else if how.keepsLinks && how.means ≠ .hardLink && (1 < t.linkCount source || follows) then
        remember source at_
      else pure none
    match earlier with
    | some path =>
      if !isDir then return ⟨← linkTo path at_ true follows how.verbose, false⟩
      if ← isSameEntry x path then
        Work.warn [text "cannot copy a directory, ", Quoting.always top.1, text ", into itself, ",
          Quoting.always top.2]
        return ⟨false, true⟩
      if ← isSameEntry at_ path then
        Work.complain [text "warning: source directory ", Quoting.always top.1,
          text " specified more than once"]
        return ⟨true, false⟩
      if !follows then
        return ← bad [text "will not create hard link ", Quoting.always goal,
          text " to directory ", Quoting.always path]
    | none => pure ()
    if !isDir then
      let ok ← make how x goal node isNew follows
      if ok then
        if isOperand then noteGoal at_
      else
        if earlier.isNone then forget source
        if let some kept := kept then
          let _ ← Work.change fun t cwd => t.rename cwd kept at_
          if how.verbose then
            Work.putLine (arrow kept goal ++ text " (unbackup)")
      return ⟨ok, false⟩
    if above.contains source then
      return ← bad [text "cannot copy cyclic symbolic link ", Quoting.always x]
    let makes := isNew || !(there.toOption.any t.isDir)
    let mode := node.mode - (node.mode &&& (← Work.mask))
    if makes then
      if let some e ← Work.alter fun p s =>
          return s.withTree (← s.tree.mkdir (s.cwd p) at_ (mode ||| 0o700)) then
        if earlier.isNone then forget source
        return ← bad [text "cannot create directory ", Quoting.always goal, text ": ", reason e]
      if !(← get).madeDir then
        if let .ok n ← idOf at_ false then
          let _ ← remember n at_
          modify fun l => { l with madeDir := true }
      if how.verbose then putArrow "" x goal none
    let entries := ((← Work.act Act.tree).entries source).mergeSort fun a b => a.2 ≤ b.2
    let within : Transfer := { how with
      following := if following = .operands then some .never else how.following }
    let mut outcome : Outcome := ⟨true, false⟩
    for (name, _) in entries do
      if !outcome.intoItself then
        let o ← carry within top fuel false (if makes then .sure else .unknown) (source :: above)
          (Path.join x name) (Path.join at_ name)
        outcome := ⟨outcome.ok && o.ok, o.intoItself⟩
    if isOperand then noteGoal at_
    if makes then amend at_ true fun n => { n with mode := mode }
    amendCopy how at_ true true 0o777 node
    return outcome

end JarLauncher.Tool
