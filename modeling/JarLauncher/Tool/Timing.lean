import JarLauncher.Tool.Launching
import JarLauncher.Tool.Signalling

/-! Tools that wait for a time: by themselves, or for a program that may not take longer. -/

namespace JarLauncher.Tool

open Unix
open Shell (text newline)

/-- what came of a child that was waited for -/
inductive Waited where
  | ended (e : Ending)
  | overdue

/-- wait for a child until it ends or the alarm comes -/
def awaitUntilDue (child : Pid) : Act Waited := Act.attempt fun p s =>
  match s.news p (· = child) false with
  | some (.ended _ e, s) => (some (.ended e), s)
  | _ =>
    let alarmed := (s.process? p).any fun x => x.alarm.isSome
    (if alarmed && Act.isDue p s then some .overdue else none, s)

structure Timeout where
  signal : Signal := Signal.term
  killAfter : Option Nat := none
  preserves : Bool := false
  foreground : Bool := false
  verbose : Bool := false

def intervalOption (value : Bytes) : Work Nat := do
  match Count.micros? value with
  | some n => return n
  | none => Work.misuse [text "invalid time interval ", Quoting.plain value]

def timeoutMenu : Menu :=
  { letters := "k:s:v"
    words := [flag "foreground" 'f', flag "preserve-status" 'p', valued "signal" 's',
      valued "kill-after" 'k', flag "verbose" 'v']
    ordered := true }

/-- the status of a limit that came to its end before the command -/
def timedOut : Nat := 124

def timeout : Routine := fun args => do
  let (how, operands) ← Work.options timeoutMenu args { : Timeout } fun how g => do
    let value := g.value.getD []
    match g.letter with
    | 'f' => return { how with foreground := true }
    | 'p' => return { how with preserves := true }
    | 'v' => return { how with verbose := true }
    | 's' => return { how with signal := ← signalOption value }
    | _ => return { how with killAfter := some (← intervalOption value) }
  match operands with
  | [] | [_] => Work.usage
  | limit :: command =>
    let micros ← intervalOption limit
    let d ← get
    if !how.foreground then
      Work.act (Act.modify fun p s => s.modify p fun x => { x with group := p })
    let child ← Work.act (Act.fork ((Work.become command d.env [text "failed to run command "] :
      Work Nat) d fun (r, _) => .exit (match r with
        | .ok n => n
        | .error n => n)))
    let limitTo (n : Nat) : Work Unit := Work.act (Act.setAlarm (if n = 0 then none else some n))
    let send (s : Signal) : Work Unit := do
      if how.verbose then
        let name := (Signal.names.lookup s).getD ""
        Work.complain [text ("sending signal " ++ name ++ " to command "),
          Quoting.always (command.headD [])]
      let _ ← Work.act (Act.kill child s)
      if !how.foreground then
        Work.act (Act.setDisposition s .ignored)
        let _ ← Work.act (Act.kill 0 s)
      if s ≠ Signal.kill ∧ s ≠ Signal.cont then
        let _ ← Work.act (Act.kill child Signal.cont)
    limitTo micros
    let first ← Work.act (awaitUntilDue child)
    match first with
    | .ended e => throw e.status
    | .overdue =>
      send how.signal
      Work.act (Act.setAlarm how.killAfter)
      let (e, killed) ← Work.loop false fun killed => do
        match ← Work.act (awaitUntilDue child) with
        | .ended e => return .error (e, killed)
        | .overdue =>
          Work.act (Act.setAlarm none)
          send Signal.kill
          return .ok true
      if e = .killed Signal.kill ∧ (how.signal = Signal.kill ∨ killed) then
        throw (128 + Signal.kill)
      throw (if how.preserves then e.status else timedOut)

def sleep : Routine := fun args => do
  let (_, operands) ← Work.flags { letters := "" } args
  if operands.isEmpty then Work.missingOperand
  let mut total := 0
  let mut clear := true
  for x in operands do
    if x = text "infinity" ∨ x = text "inf" then total := total + Act.patience
    else match Count.micros? x with
      | some n => total := total + n
      | none =>
        clear := false
        Work.complain [text "invalid time interval ", Quoting.plain x]
  if !clear then Work.usage
  Work.act (Act.sleep total)

end JarLauncher.Tool
