import JarLauncher.Shell.Reader.Grammar
import JarLauncher.Unix.Exec

/-! What a shell knows while it runs: its variables, functions, aliases, options, traps and jobs,
beside what the system knows of its process. -/

namespace JarLauncher.Shell

open Unix

structure Var where
  value : Option Bytes
  exported : Bool
  readOnly : Bool
  /-- it stays known when it is unset -/
  fixed : Bool

/-- what a function puts back when it ends -/
inductive Local where
  | var (name : Bytes) (before : Option Var)
  | options (before : List Char)

/-- where options stand while they are taken one by one -/
structure OptionPlace where
  /-- the next argument, counted from 1 -/
  index : Nat
  /-- where in the argument before it the next letter stands, if there is one left -/
  offset : Option Nat

/-- why commands are passed over -/
inductive Skip where
  | break
  | continue
  /-- back from a function or a file, with a status of its own or not -/
  | return (given : Bool)
  deriving DecidableEq

structure JobProcess where
  pid : Pid
  /-- how it ended -/
  ending : Option Ending

/-- processes that were started as one -/
structure Job where
  number : Nat
  processes : List JobProcess
  /-- somebody waited for it -/
  waited : Bool

namespace Job

def isRunning (j : Job) : Bool := j.processes.any fun p => p.ending.isNone

def has (j : Job) (pid : Pid) : Bool := j.processes.any fun p => p.pid = pid

def lastPid (j : Job) : Pid := (j.processes.getLast?.map JobProcess.pid).getD 0

/-- the status of its last process -/
def status (j : Job) : Nat :=
  ((j.processes.getLast?.bind JobProcess.ending).map Ending.status).getD 0

def ended (j : Job) (pid : Pid) (e : Ending) : Job :=
  { j with processes := j.processes.map fun p => if p.pid = pid then ⟨pid, some e⟩ else p }

end Job

/-- what a name was found to stand for as a command -/
inductive Found where
  | builtin
  /-- a file, in the directory of the path that so many others come before -/
  | file (index : Nat)
  deriving DecidableEq

/-- a command that was looked for and found -/
structure Remembered where
  name : Bytes
  found : Found
  /-- the working directory was changed since -/
  stale : Bool

structure Memory where
  /-- the name that the shell goes by -/
  name : Bytes
  args : List Bytes
  place : OptionPlace
  vars : List (Bytes × Var)
  /-- what is put back when the functions that run end, the innermost first -/
  locals : List (List Local)
  functions : List (Bytes × Nat × Command)
  aliases : List (Bytes × Bytes)
  remembered : List Remembered
  /-- the letters of the options that are on -/
  options : List Char
  status : Nat
  /-- the status of the last command whose output was taken -/
  outputStatus : Nat
  /-- the status that the shell had before an action on a signal, or ends with -/
  keptStatus : Option Nat
  skip : Option Skip
  /-- how many loops are left or gone on with -/
  skipCount : Nat
  loops : Nat
  depth : Nat
  /-- the texts that are being run, each for a command or an action in the one before -/
  texts : Nat
  /-- the shell that `$$` names, also in its subshells -/
  mainPid : Pid
  /-- this is not a copy of another shell -/
  isMain : Bool
  lastJob : Option Pid
  /-- the last one first -/
  jobs : List Job
  /-- the working directory as the shell names it, and as the system does if that was asked for -/
  dir : Bytes
  physicalDir : Option Bytes
  /-- the line that is run, as the shell counts it and as complaints do -/
  line : Nat
  complaintLine : Nat
  /-- the line that is read next -/
  readLine : Nat
  /-- the line that the function that runs starts in, if one does -/
  functionLine : Nat
  /-- the command that is carried out, as complaints name it -/
  command : Option Bytes
  /-- output that is not yet written -/
  output : ByteArray
  /-- the descriptors that redirections replaced, by where they are kept; the innermost first -/
  replaced : List (List (Nat × Option Nat))
  /-- actions by signal; 0 is the end of the shell -/
  traps : List (Signal × Bytes)
  /-- signals that came and whose actions have not run -/
  caught : List Signal
  /-- signals ignored from the start, which stay so -/
  deaf : List Signal
  documents : Array Word
  /-- the end of the text was read behind the last command, and is what a reader finds next -/
  heldEnd : Bool
  /-- the mark in front of a trace is being made -/
  inTrace : Bool

/-- why a command does not come to its end -/
inductive Stop where
  /-- a mistake, which ends a shell unless a plain command made it -/
  | mistake
  /-- the command `exit` -/
  | exit
  /-- the last command of a process is done -/
  | finished
  deriving DecidableEq

abbrev Sh := ExceptT Stop (StateT Memory Act)

/-- how a command stands to what surrounds it -/
structure Flags where
  /-- nothing follows, so that a program may take the shell's place -/
  last : Bool
  /-- its status decides something, so a failure does not end the shell -/
  tested : Bool

/-- a way to run commands -/
abbrev Runner := Flags → Command → Sh Unit

namespace Sh

def act {α : Type} (a : Act α) : Sh α := liftM a

def setStatus (n : Nat) : Sh Unit := modify fun m => { m with status := n }

/-- a line on some descriptor -/
def lineTo (fd : Nat) (words : List Bytes) : Sh Unit := do
  let _ ← act (Act.put fd (words.flatten ++ [newline]))

/-- the start of a complaint: the shell, the line, and the command that is carried out -/
def complaintStart (m : Memory) : Bytes :=
  m.name ++ text ": " ++ decimal m.complaintLine ++ text ": " ++
    match m.command with
    | some c => c ++ text ": "
    | none => []

/-- write what the command has put out so far; the error number if that fails -/
def flush : Sh (Option Int) := do
  let m ← get
  if m.output.isEmpty then return none
  set { m with output := ByteArray.empty }
  act (Act.writeAll 1 m.output)

def complain (words : List Bytes) : Sh Unit := do
  lineTo 2 (complaintStart (← get) :: words)

/-- a mistake; its status is 2 unless it says another one -/
def fail {α : Type} (words : List Bytes) (status : Nat := 2) : Sh α := do
  modify fun m => { m with status := status }
  complain words
  let _ ← flush
  throw .mistake

/-- put octets out, to be written when the command is done -/
def put (bs : Bytes) : Sh Unit := modify fun m =>
  let before := m.output
  let m := { m with output := ByteArray.empty }
  { m with output := bs.foldl ByteArray.push before }

def hasOption (c : Char) : Sh Bool := return (← get).options.contains c

/-- a mistake in the text that is read -/
def failReading {α : Type} (line : Nat) (message : String) : Sh α := do
  modify fun m => { m with complaintLine := line }
  fail [text "Syntax error: ", text message]

/-- the end of a process that ran out of room for what it has not finished -/
def overflow {α : Type} : Sh α := do
  act (Act.modify fun p s => s.terminate p (.killed Signal.segmentation))
  throw .finished

/-- the way a piece of work stops, as a value -/
def capture {α : Type} (body : Sh α) : Sh (Except Stop α) := fun m rest =>
  body m fun (r, m) => rest (.ok r, m)

/-- go on as a captured piece of work did -/
def resume {α : Type} : Except Stop α → Sh α
  | .ok a => return a
  | .error stop => throw stop

end Sh
end JarLauncher.Shell
