import JarLauncher.Shell.Builtin.Basic

/-! The commands about jobs, signals and what a process may use. -/

namespace JarLauncher.Shell.Builtin

open Unix

/-- how a job stands, in words -/
def stateText (j : Job) : String :=
  if j.isRunning then "Running"
  else match j.processes.getLast?.bind JobProcess.ending with
    | some (.exited 0) => "Done"
    | some (.exited n) => "Done(" ++ toString n ++ ")"
    | some (.killed s) => deathText s
    | none => "Running"

/-- show a job, and forget it if it has ended -/
def showJob (pids groups : Bool) (j : Job) : Sh Unit := do
  let first := (j.processes.head?.map JobProcess.pid).getD 0
  if groups then Sh.put (decimal first ++ [newline])
  else
    let jobs := (← get).jobs
    let sign : String :=
      if jobs.head?.any (·.number = j.number) then "+"
      else if jobs[1]?.any (·.number = j.number) then "-"
      else " "
    let start := "[" ++ toString j.number ++ "] " ++ sign ++ " "
    let line := start ++ (if pids then toString first ++ " " else "") ++ stateText j
    let padding (n : Nat) : String := "".pushn ' ' (max 1 (33 - n))
    Sh.put (text (line ++ padding line.length))
    let others := (j.processes.drop 1).map JobProcess.pid
    if pids then
      for p in others do
        let line := " |\n" ++ "".pushn ' ' start.length ++ toString p ++ " "
        Sh.put (text (line ++ padding (line.length - 3)))
    else others.forM fun _ => Sh.put (text " | ")
    Sh.put [newline]
    if !j.isRunning then Sh.freeJob j.number

def jobs : Builtin := fun args => do
  let o ← Options.take "lp" args
  let last := o.given.getLast?.map Prod.fst
  let showOne := showJob (last = some 'l') (last = some 'p')
  if o.operands.isEmpty then
    let _ ← Sh.await none .not
    (← get).jobs.forM showOne
  else
    for a in o.operands do showOne (← jobOf a)
  return 0

/-- jobs are moved between foreground and background under control of jobs only -/
def move : Builtin := fun args => do
  let args ← operands args
  let name := args.headD []
  let _ ← jobOf (if args.isEmpty then [37] else name)
  Sh.fail [text "job ", if args.isEmpty then text "(null)" else name,
    text " not created under job control"]

/-- the status of a wait that a signal cut short -/
def interruptedStatus : Sh Nat := do return 128 + ((← get).caught.getLast?.getD 0)

/-- wait until nothing runs; false if a signal comes first -/
def waitForAll : Nat → Sh Bool
  | 0 => return true
  | fuel + 1 => do
    if !(← get).jobs.any Job.isRunning then
      modify fun m => { m with jobs := m.jobs.map fun j => { j with waited := true } }
      return true
    if ← Sh.await none .anyOrSignal then waitForAll fuel else return false

/-- wait for one job after another -/
def waitForEach (status : Nat) : List Bytes → Sh Nat
  | [] => return status
  | a :: rest => do
    let job ← if a.head? = some 37 then do pure (some (← jobOf a))
      else do
        let pid ← Sh.number a
        pure ((← get).jobs.find? fun j => j.lastPid = pid)
    match job with
    | none => waitForEach status rest
    | some j =>
      if !(← Sh.await (some j.number) .jobOrSignal) then return ← interruptedStatus
      Sh.changeJob j.number fun j => { j with waited := true }
      waitForEach (((← Sh.job? j.number).map Job.status).getD 0) rest

def wait : Builtin := fun args => do
  match ← operands args with
  | [] => if ← waitForAll Act.patience then return 0 else interruptedStatus
  | args => waitForEach 127 args

def killUsage : Sh Nat :=
  Sh.fail [text "Usage: kill [-s sigspec | -signum | -sigspec] [pid | job]... or\n",
    text "kill -l [exitstatus]"]

def killTarget (s : Signal) (bs : Bytes) : Sh Bool := do
  let number : Int ← match bs with
    | 37 :: _ => do pure (-((((← jobOf bs).processes.head?.map JobProcess.pid).getD 0 : Nat) : Int))
    | 45 :: rest => do pure (-((← Sh.number rest) : Int))
    | _ => do pure ((← Sh.number bs) : Int)
  match ← Sh.act (Act.kill number s) with
  | none => return true
  | some e =>
    Sh.complain [text (Errno.text e), [newline]]
    return false

def listSignals (args : List Bytes) : Sh Nat := do
  match args with
  | [] =>
    Sh.put (text "0\n")
    (signalNames.drop 1).forM fun n => Sh.put (text (n ++ "\n"))
    return 0
  | a :: _ =>
    let n ← Sh.number a
    let n := if 128 < n then n - 128 else n
    if 0 < n ∧ n < signalNames.length then
      Sh.put (signalName n ++ [newline])
      return 0
    Sh.fail [text "invalid signal number or exit status: ", a]

def killAll (s : Signal) (args : List Bytes) : Sh Nat := do
  if args.isEmpty then return ← killUsage
  let sent ← args.mapM (killTarget s)
  return if sent.all id then 0 else 1

def kill : Builtin := fun args => do
  match args with
  | [] => killUsage
  | (45 :: name) :: rest =>
    match signalOf? name 1 with
    | some s => killAll s rest
    | none =>
      let o ← Options.take "ls:" args
      let signal ← match o.value? 's' with
        | none => pure none
        | some name =>
          match signalOf? name 1 with
          | some s => pure (some s)
          | none => Sh.fail [text "invalid signal number or name: ", name]
      if o.has 'l' then
        if signal.isSome && !o.operands.isEmpty then killUsage else listSignals o.operands
      else killAll (signal.getD Signal.term) o.operands
  | args => killAll Signal.term args

/-- what is done from now on when a signal comes, or at the end of the shell -/
def setTrap (s : Signal) (action : Option Bytes) : Sh Unit := do
  modify fun m =>
    let others := m.traps.filter (·.1 ≠ s)
    { m with traps := match action with
      | some a => (s, a) :: others
      | none => others }
  if s ≠ 0 then Sh.setSignal s

def setTraps (action : Option Bytes) : List Bytes → Sh Nat
  | [] => return 0
  | name :: rest => do
    match signalOf? name 0 with
    | none =>
      Sh.lineTo 2 [text "trap: ", name, text ": bad trap"]
      return 1
    | some s =>
      setTrap s action
      setTraps action rest

def trap : Builtin := fun args => do
  match ← operands args with
  | [] =>
    for (s, action) in (← get).traps.mergeSort fun a b => a.1 ≤ b.1 do
      Sh.put (text "trap -- " ++ quoted action ++ [32] ++ signalName s ++ [newline])
    return 0
  | [name] => setTraps none [name]
  | action :: names =>
    if (signalOfNumber? action).isSome then setTraps none (action :: names)
    else setTraps (if action = [45] then none else some action) names

/-- no time is accounted for -/
def times : Builtin := fun _ => do
  let line := "0m0.000000s 0m0.000000s\n"
  Sh.put (text (line ++ line))
  return 0

/-- the limits, by their letters -/
def limits : List (Char × String) :=
  [('t', "time(seconds)"), ('f', "file(blocks)"), ('d', "data(kbytes)"), ('s', "stack(kbytes)"),
   ('c', "coredump(blocks)"), ('m', "memory(kbytes)"), ('l', "locked memory(kbytes)"),
   ('p', "process"), ('n', "nofiles"), ('v', "vmemory(kbytes)"), ('w', "locks"), ('r', "rtprio")]

def limitText : Option Nat → Bytes
  | none => text "unlimited"
  | some n => decimal n

/-- the width of the names of limits in a list -/
def limitWidth : Nat := 20

/-- a limit as it is given; octets that are no digits are a mistake -/
def limitValue (a : Bytes) : Sh (Option Nat) := do
  if a = text "unlimited" then return none
  if !a.all isDigit then Sh.fail [text "bad number"]
  return some (natOf a)

def ulimit : Builtin := fun args => do
  let o ← Options.take "HSatfdscmlpnvwr" args
  let letters := o.given.map Prod.fst
  let how := (letters.filter fun c => c = 'H' || c = 'S').getLast?
  let what := ((letters.filter fun c => (limits.lookup c).isSome).getLast?).getD 'f'
  let value? ← match o.operands with
    | [] => pure none
    | [a] =>
      if o.has 'a' then Sh.fail [text "too many arguments"]
      some <$> limitValue a
    | _ => Sh.fail [text "too many arguments"]
  let held : Limits ← Sh.act (Act.ask fun p s => s.limits p)
  let shown (l : Limit) : Bytes :=
    limitText (if how = some 'H' then l.hard else l.soft) ++ [newline]
  if o.has 'a' then
    for (c, name) in limits do
      Sh.put (text name ++ List.replicate (limitWidth - name.length) 32 ++ 32 :: shown (held.get c))
    return 0
  let old := held.get what
  match value? with
  | none => Sh.put (shown old)
  | some value =>
    let soft := if how = some 'H' then old.soft else value
    let hard := if how = some 'S' then old.hard else value
    match old.replace ⟨soft, hard⟩ with
    | .error e => Sh.fail [text "error setting limit (", text (Errno.text e), text ")"]
    | .ok new =>
      Sh.act (Act.modify fun p s => s.modify p fun x => { x with limits := x.limits.set what new })
  return 0

end JarLauncher.Shell.Builtin
