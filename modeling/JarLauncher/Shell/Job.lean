import JarLauncher.Shell.Redirection

/-! Processes that a shell starts, and waiting for them. A copy of the shell forgets the jobs of the
one it comes from and its actions on signals. -/

namespace JarLauncher.Shell

open Unix

/-- the texts by which shells tell how a process was killed -/
def deathText (s : Signal) : String :=
  match s with
  | 1 => "Hangup"
  | 2 => "Interrupt"
  | 3 => "Quit"
  | 4 => "Illegal instruction"
  | 5 => "Trace/breakpoint trap"
  | 6 => "Aborted"
  | 7 => "Bus error"
  | 8 => "Floating point exception"
  | 9 => "Killed"
  | 10 => "User defined signal 1"
  | 11 => "Segmentation fault"
  | 12 => "User defined signal 2"
  | 13 => "Broken pipe"
  | 14 => "Alarm clock"
  | 15 => "Terminated"
  | 16 => "Stack fault"
  | 17 => "Child exited"
  | 18 => "Continued"
  | 19 => "Stopped (signal)"
  | 20 => "Stopped"
  | 21 => "Stopped (tty input)"
  | 22 => "Stopped (tty output)"
  | 23 => "Urgent I/O condition"
  | 24 => "CPU time limit exceeded"
  | 25 => "File size limit exceeded"
  | 26 => "Virtual timer expired"
  | 27 => "Profiling timer expired"
  | 28 => "Window changed"
  | 29 => "I/O possible"
  | 30 => "Power failure"
  | 31 => "Bad system call"
  | n =>
    if n = 32 ∨ n = 33 then "Unknown signal " ++ toString n
    else "Real-time signal " ++ toString (n - 34)

namespace Sh

/-- what the process does about a signal, as the actions and the shell's own needs have it -/
def setSignal (s : Signal) : Sh Unit := do
  let m ← get
  if m.deaf.contains s || s = Signal.kill || s = Signal.stop then return
  let d : Disposition := match m.traps.lookup s with
    | some [] => .ignored
    | some _ => .handler 0
    | none =>
      if m.isMain && s = Signal.int && (m.options.contains 'i' || !m.options.contains 's') then
        .handler 0
      else .default
  act (Act.setDisposition s d)

/-- signals that came in the meantime; an interrupt that there is no action for ends the shell -/
def noticeSignals : Sh Unit := do
  let signals ← act Act.takeCaught
  if signals.isEmpty then return
  modify fun m => { m with caught := m.caught ++ signals }

def dieInterrupted : Sh Unit := do
  let m ← get
  if m.caught.contains Signal.int && (m.traps.lookup Signal.int).isNone then
    act (Act.setDisposition Signal.int .default)
    let p ← act Act.pid
    let _ ← act (Act.kill p Signal.int)

/-- the job with a number -/
def job? (number : Nat) : Sh (Option Job) := return (← get).jobs.find? fun j => j.number = number

def changeJob (number : Nat) (f : Job → Job) : Sh Unit := modify fun m =>
  { m with jobs := m.jobs.map fun j => if j.number = number then f j else j }

def freeJob (number : Nat) : Sh Unit := modify fun m =>
  { m with jobs := m.jobs.filter fun j => j.number ≠ number }

/-- a new job, under the least number that no job needs -/
def newJob : Sh Nat := do
  let jobs := (← get).jobs
  let needed (n : Nat) : Bool := jobs.any fun j => j.number = n && !(j.waited && !j.isRunning)
  let number := (List.range (jobs.length + 1)).find? (fun n => !needed (n + 1)) |>.getD jobs.length
  freeJob (number + 1)
  modify fun m => { m with jobs := ⟨number + 1, [], false⟩ :: m.jobs }
  return number + 1

/-- a child of the shell has ended; that is told if it was waited for -/
def noteEnding (pid : Pid) (e : Ending) (awaited : Option Nat) : Sh Unit := do
  match (← get).jobs.find? fun j => j.isRunning && j.has pid with
  | none => return
  | some j =>
    changeJob j.number (·.ended pid e)
    if awaited = some j.number then
      match e with
      | .killed s =>
        if s ≠ Signal.int ∧ s ≠ Signal.pipe then lineTo 2 [text (deathText s)]
      | .exited _ => pure ()

/-- how long to wait -/
inductive Waiting where
  | not
  /-- until the job has ended -/
  | job
  /-- the same, but not longer than until a signal comes -/
  | jobOrSignal
  /-- until some child has ended or a signal comes -/
  | anyOrSignal
  deriving DecidableEq

def awaitStep (job : Option Nat) (state : Waiting × Bool) : Sh (Except Bool (Waiting × Bool)) := do
  let (how, held) := state
  match ← act (Act.wait (fun _ => true) false (how ≠ .not)) with
  | .news (.stopped ..) => return .ok state
  | .noChild | .nothingYet => return .error held
  | .interrupted =>
    noticeSignals
    if how = .job then return .ok state else return .ok (.not, false)
  | .news (.ended pid e) =>
    noteEnding pid e job
    let isDone ← match job with
      | some n => do pure (!((← job? n).any Job.isRunning))
      | none => pure false
    return .ok (if isDone || how = .anyOrSignal then .not else how, held)

def awaitFrom (job : Option Nat) : Nat → Waiting × Bool → Sh Bool
  | 0, state => return state.2
  | fuel + 1, state => do
    match ← awaitStep job state with
    | .error held => return held
    | .ok state => awaitFrom job fuel state

/-- Wait for a job, or for children in general. All that can be heard of children is heard. The
answer is false if a signal cut the wait short. -/
def await (job : Option Nat) (how : Waiting) : Sh Bool := do
  let how ← match job with
    | some n => do pure (if (← job? n).any Job.isRunning then how else .not)
    | none => pure how
  awaitFrom job Act.patience (how, true)

/-- wait for a job in the foreground and forget it -/
def finishJob (number : Nat) : Sh Unit := do
  let _ ← await (some number) .job
  let status := ((← job? number).map Job.status).getD 0
  freeJob number
  setStatus status

/-- what a copy of the shell remembers -/
def copied (m : Memory) : Memory :=
  { m with
    isMain := false
    traps := m.traps.filter fun t => t.2 = []
    caught := []
    jobs := []
    replaced := []
    readLine := 1
    output := ByteArray.empty }

/-- make this process deaf to a signal -/
def deafen (s : Signal) : Sh Unit := do
  act (Act.setDisposition s .ignored)
  modify fun m => { m with deaf := s :: m.deaf }

/-- the null device in the place of standard input -/
def emptyInput : Sh Unit := do
  act (Act.close 0)
  let _ ← act (Act.openPath (text "/dev/null") .read)

/-- what a copy of the shell begins with -/
def settle (actions : List (Signal × Bytes)) (inBackground isFirst : Bool) : Sh Unit := do
  for (s, action) in actions do
    if s ≠ 0 ∧ action ≠ [] then setSignal s
  if inBackground then
    deafen Signal.int
    deafen Signal.quit
    if isFirst then emptyInput

/-- Start a copy of the shell that does `body` and ends with the status that `finish` makes of it.
It belongs to a job if one is named. -/
def fork (job : Option Nat) (inBackground : Bool) (finish : Except Stop Unit → Sh Nat)
    (body : Sh Unit) : Sh Unit := do
  let m ← get
  let isFirst ← match job with
    | some n => do pure ((← job? n).all fun j => j.processes.isEmpty)
    | none => pure true
  let work : Sh Nat := do
    settle m.traps inBackground isFirst
    finish (← capture body)
  let child : Activity := work (copied m) fun (r, _) => .exit (r.toOption.getD 2)
  let pid ← act (Act.fork child)
  if inBackground then modify fun m => { m with lastJob := some pid }
  match job with
  | some n => changeJob n fun j => { j with processes := j.processes ++ [⟨pid, none⟩] }
  | none => return

end Sh
end JarLauncher.Shell
