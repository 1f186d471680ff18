import JarLauncher.Tool.Transfer.Carry

/-! The tool that gives files other names, or puts them in another directory. -/

namespace JarLauncher.Tool

open Unix
open Shell (text)

namespace Transfer

/-- an option of moves -/
def takeMove (how : Transfer) (g : Given) : Work Transfer := do
  match g.letter with
  | 'f' => return { how with clash := .replace }
  | 'i' => return { how with clash := .ask }
  | 'n' => return { how with clash := .refuse }
  | 'u' => how.updateAs g.value .refuse
  | _ => how.take g

def moveMenu : Menu :=
  { letters := "bfint:uvS:TZ"
    words := Transfer.words ++ [flag "context" 'Z', flag "force" 'f', flag "interactive" 'i',
      flag "no-clobber" 'n', flag "no-copy" 'x', flag "strip-trailing-slashes" '/',
      ⟨"update", .optional, 'u'⟩] }

end Transfer

/-- give a path another name, if nothing has that name -/
def tryRename (x goal : Bytes) : Work (Option Int) :=
  Work.change fun t cwd => t.rename cwd x goal false

/-- the faults that are the goal's -/
def isGoalFault (e : Int) : Bool :=
  e = Errno.alreadyExists || e = Errno.isDirectory || e = Errno.notEmpty || e = Errno.noSpace

/-- Move a path; `tried` is what came of the first attempt. -/
def move (how : Transfer) (isLast : Bool) (tried : Option Int) (x goal : Bytes) :
    Carrying Unit := do
  let at_ := orHere goal
  let moved (kept : Option Bytes) : Carrying Unit := do
    if how.verbose then putArrow "renamed " x goal kept
    if !isLast then Carrying.noteGoal at_
  match tried with
  | none => moved none
  | some e =>
    if e = Errno.alreadyExists ∧ how.clash = .refuse then
      let _ ← leave how goal false
      return
    if e = Errno.alreadyExists ∧ how.clash = .skip then
      let _ ← leave how goal true
      return
    match ← idOf x false with
    | .error e => Work.warn [text "cannot stat ", Quoting.always x, text ": ", reason e]
    | .ok source =>
      let there ← idOf at_ false
      let way ← match there with
        | .ok there => makeRoom how true true x goal source there
        | .error e =>
          if e = Errno.noEntry then pure (.go true none)
          else do
            Work.warn [text "cannot stat ", Quoting.always goal, text ": ", reason e]
            pure (.done false)
      match way with
      | .done _ => return
      | .go _ kept =>
        let fault ← if there.isOk ∨ e = Errno.alreadyExists then
            Work.change fun t cwd => t.rename cwd x at_
          else pure (some e)
        match fault with
        | none => moved kept
        | some e =>
          if e = Errno.invalid then
            Work.warn [text "cannot move ", Quoting.always x, text " to a subdirectory of itself, ",
              Quoting.always goal]
          else if isGoalFault e then
            Work.warn [text "cannot overwrite ", Quoting.always goal, text ": ", reason e]
          else
            Work.warn [text "cannot move ", Quoting.always x, text " to ", Quoting.always goal,
              text ": ", reason e]

def mv : Routine := fun args => do
  let (how, operands) ← Work.options Transfer.moveMenu args { : Transfer } Transfer.takeMove
  checkOperands how operands
  let trimmed (x : Bytes) : Bytes := if how.strips then unslashed x else x
  let operands := operands.map trimmed
  let tried ← match how.into, operands with
    | none, [x, goal] => if how.exact then pure (some Errno.alreadyExists) else tryRename x goal
    | _, _ => pure (some Errno.alreadyExists)
  let target ← match tried, operands with
    | none, [x, goal] => pure (.to x goal)
    | _, _ => goalOf how operands badTarget
  if how.backs && (how.clash = .skip || how.clash = .refuse) then
    Work.misuse [text "options --backup and --no-clobber are mutually exclusive"]
  let how ← how.settle
  let how := { how with update := how.update && how.clash ≠ .refuse }
  match target with
  | .to x goal =>
    let tried ← if how.exact then tryRename x goal else pure tried
    let _ ← (move how true tried x goal).run {}
  | .into dir sources =>
    let mut ledger : Ledger := { tracks := 1 < sources.length }
    for (x, i) in sources.zipIdx do
      let goal := Path.join dir (baseOf x)
      let (_, after) ← (move how (i + 1 = sources.length) (← tryRename x goal) x goal).run ledger
      ledger := after

end JarLauncher.Tool
