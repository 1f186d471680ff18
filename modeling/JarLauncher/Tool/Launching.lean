import JarLauncher.Shell.Arithmetic
import JarLauncher.Tool.Count

/-! Tools that become another program: with another priority, out of reach of hangups, or under
other limits. -/

namespace JarLauncher.Tool

open Unix
open Shell (text newline)

namespace Work

/-- the status of a tool that could not start a program -/
def unstarted (e : Int) : Nat := if e = Errno.noEntry then 127 else 126

/-- become a program that is looked for by its name -/
def become {α : Type} (argv : List Bytes) (env : List (Bytes × Bytes)) (complaint : List Bytes) :
    Work α := do
  flush
  let e ← act (Act.execNamed (argv.headD []) argv env)
  complain (complaint ++ [Quoting.always (argv.headD []), text ": ", reason e])
  throw (unstarted e)

end Work

/-- every place of a mark in a text replaced -/
def replaced (mark value : Bytes) : Nat → Bytes → Bytes
  | 0, bs => bs
  | _, [] => []
  | fuel + 1, b :: rest =>
    if mark ≠ [] ∧ mark.isPrefixOf (b :: rest) then
      value ++ replaced mark value fuel ((b :: rest).drop mark.length)
    else b :: replaced mark value fuel rest

def nice : Routine := fun args => do
  let menu : Menu := { letters := "n:", words := [valued "adjustment" 'n'], ordered := true }
  let (older, args) := match args with
    | arg :: rest => if (olderNumber? arg).isSome then (olderNumber? arg, rest) else (none, args)
    | [] => (none, args)
  let (given, command) ← Work.options menu args older fun _ g => return g.value
  if let some value := given then
    if (Shell.Arithmetic.decimal? value).isNone then
      Work.fail [text "invalid adjustment ", Quoting.plain value]
  if command.isEmpty then
    if given.isSome then Work.misuse [text "a command must be given with an adjustment"]
    Work.putLine (text "0")
  else Work.become command (← get).env []
where
  olderNumber? (arg : Bytes) : Option Bytes :=
    match arg with
    | 45 :: b :: rest => if Shell.isDigit b then some (b :: rest) else none
    | _ => none

def nohup : Routine := fun args => do
  let (_, command) ← Work.flags { letters := "", ordered := true } args
  if command.isEmpty then Work.missingOperand
  Work.act (Act.setDisposition 1 .ignored)
  Work.become command (← get).env [text "failed to run command "]

def stdbuf : Routine := fun args => do
  let menu : Menu :=
    { letters := "i:o:e:"
      words := [valued "input" 'i', valued "output" 'o', valued "error" 'e']
      ordered := true }
  let (count, command) ← Work.options menu args 0 fun n g => do
    let value := g.value.getD []
    if value = [76] ∧ g.letter = 'i' then
      Work.misuse [text "line buffering stdin is meaningless"]
    if value ≠ [76] ∧ (Count.scaled "EgGkKmMPQRtTYZ" value).toOption.isNone then
      Work.fail [text "invalid mode ", Quoting.plain value]
    return n + 1
  if command.isEmpty then Work.missingOperand
  if count = 0 then Work.misuse [text "you must specify a buffering mode option"]
  Work.become command (← get).env [text "failed to run command "]

/-- become a program in a session of its own, or under other limits, which makes no difference here
-/
def launcher : Routine := fun args => do
  let (_, command) ← Work.flags { letters := "cfw", ordered := true } args
  match command with
  | [] => Work.misuse [text "no command specified"]
  | x :: _ =>
    Work.flush
    let e ← Work.act (Act.execNamed x command (← get).env)
    Work.complain [text "failed to execute ", x, text ": ", reason e]
    throw (Work.unstarted e)

/-- the shell under another name; a script that it cannot open is unknown to it -/
def otherShell : Routine := fun args => do
  let d ← get
  let script? := if args.any fun x => x.take 2 = text "-c" then none
    else args.find? fun x => x.head? ≠ some 45
  if let some script := script? then
    if let .error e ← Work.node? script then
      Work.complain [script, text ": ", reason e]
      throw (Work.unstarted e)
  let e ← Work.act (Act.execNamed (text "/bin/sh") (d.name :: args) d.env)
  Work.fail [reason e]

end JarLauncher.Tool
