import JarLauncher.Tool.Transfer.Carry

/-! The tool that copies files, and directories with all that they hold. -/

namespace JarLauncher.Tool

open Unix
open Shell (text)

namespace Transfer

/-- what is called a clone, and when one is made -/
def cloning : List (String × Bool) := [("auto", false), ("always", true), ("never", false)]

/-- an option of copies -/
def takeCopy (how : Transfer) (g : Given) : Work Transfer := do
  match g.letter with
  | 'a' =>
    return { how with
      recursive := true, following := some .never, keepsMode := true, keepsTimes := true,
      keepsLinks := true, resetsMode := false }
  | 'd' => return { how with following := some .never, keepsLinks := true }
  | 'f' => return { how with force := true }
  | 'H' => return { how with following := some .operands }
  | 'i' => return { how with clash := .ask }
  | 'l' | 's' =>
    let means := if g.letter = 'l' then Means.hardLink else .symbolicLink
    if how.means ≠ .copy ∧ how.means ≠ means then
      Work.misuse [text "cannot make both hard and symbolic links"]
    return { how with means := means }
  | 'L' => return { how with following := some .always }
  | 'n' =>
    Work.complain [text "warning: behavior of -n is non-portable and may change in future; ",
      text "use --update=none instead"]
    return { how with clash := .skip }
  | 'P' => return { how with following := some .never }
  | 'p' =>
    match g.value with
    | none => return { how with keepsMode := true, keepsTimes := true, resetsMode := false }
    | some list => how.keepAll true list
  | '0' => how.keepAll false (g.value.getD [])
  | 'r' | 'R' => return { how with recursive := true }
  | 'u' => how.updateAs g.value .skip
  | 'o' => return { how with bare := true }
  | 'c' => return { how with contents := true }
  | '^' => return { how with parents := true }
  | '!' => return { how with removes := true }
  | '&' =>
    match g.value with
    | none => return { how with clones := true }
    | some word => return { how with clones := ← Work.choose "--reflink" cloning word }
  | '*' =>
    let _ ← Work.choose "--sparse" [("never", 0), ("auto", 1), ("always", 2)] (g.value.getD [])
    return how
  | _ => how.take g

def copyMenu : Menu :=
  { letters := "abdfHilLnprst:uvxPRS:TZ"
    words := Transfer.words ++ [flag "archive" 'a', flag "attributes-only" 'o',
      flag "copy-contents" 'c', flag "dereference" 'L', flag "force" 'f', flag "interactive" 'i',
      flag "link" 'l', flag "no-clobber" 'n', flag "no-dereference" 'P',
      valued "no-preserve" '0', flag "one-file-system" 'x', flag "parents" '^',
      flag "path" '^', ⟨"preserve", .optional, 'p'⟩, flag "recursive" 'R',
      flag "remove-destination" '!', valued "sparse" '*', ⟨"reflink", .optional, '&'⟩,
      flag "strip-trailing-slashes" '/', flag "symbolic-link" 's', ⟨"update", .optional, 'u'⟩,
      ⟨"context", .optional, 'Z'⟩] }

end Transfer

/-- Make the directories of a path that is to be below another as it is. Answers whether that went
well, and whether the last one was made just now. -/
def makeParents (how : Transfer) (dir x : Bytes) : Work (Bool × Bool) := do
  let mut isNew := false
  for stage in (stages (unslashed x)).dropLast do
    let goal := Path.join dir (stage.dropWhile (· = Path.slash))
    match ← Work.node? goal with
    | .ok n =>
      isNew := false
      if !n.content.isDir then
        Work.warn [Quoting.always goal, text " exists but is not a directory"]
        return (false, false)
    | .error _ =>
      match ← Work.node? stage with
      | .error e =>
        Work.warn [text "failed to get attributes of ", Quoting.always stage, text ": ", reason e]
        return (false, false)
      | .ok n =>
        if let some e ← makeDir goal (n.mode ||| 0o700) then
          Work.warn [text "cannot make directory ", Quoting.always goal, text ": ", reason e]
          return (false, false)
        isNew := true
        if how.verbose then Work.putLine (stage ++ text " -> " ++ goal)
  return (true, isNew)

def cp : Routine := fun args => do
  let (how, operands) ← Work.options Transfer.copyMenu args { : Transfer } Transfer.takeCopy
  let how ← how.settle
  let how := { how with
    update := how.update && how.clash ≠ .skip
    following := how.following <|>
      some (if how.recursive ∧ how.means ≠ .hardLink then .never else .always)
    removes := how.removes || (how.force && how.means ≠ .copy) }
  let trimmed (x : Bytes) : Bytes := if how.strips then unslashed x else x
  match ← goalOf how operands badTarget with
  | .to x goal =>
    if how.parents then
      Work.misuse [text "with --parents, the destination must be a directory"]
    let isNew := (← checkDir goal) = some Errno.noEntry
    let _ ← (carry how (trimmed x, goal) deepest true (if isNew ∧ !how.exact then .presumed
      else .unknown) [] (trimmed x) goal).run {}
  | .into dir sources =>
    let mut ledger : Ledger := { tracks := 1 < sources.length, warns := 1 < sources.length }
    for x in sources.map trimmed do
      let base := if baseOf x = Path.up then Path.here else baseOf x
      let mut clear := true
      let mut freshness := Freshness.unknown
      if how.parents then
        let (made, isNew) ← makeParents how dir x
        clear := made
        if isNew then freshness := .sure
      if clear then
        let goal := if how.parents then Path.join dir ((unslashed x).dropWhile (· = Path.slash))
          else Path.join dir base
        let (_, after) ← (carry how (x, goal) deepest true freshness [] x goal).run
          { ledger with madeDir := false }
        ledger := after

end JarLauncher.Tool
