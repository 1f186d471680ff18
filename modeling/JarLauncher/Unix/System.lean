import JarLauncher.FileTree.Basic
import JarLauncher.Signal
import JarLauncher.Unix.Limit

/-! The system around the launcher: its files, its open files and its processes. A process is known
by its number; it is there until it has ended and its parent has heard of that. -/

namespace JarLauncher.Unix

abbrev Pid := Nat

/-- a file as it was opened; descriptors that were copied share it and its offset -/
structure Opened where
  node : FileTree.Id
  offset : Nat
  readable : Bool
  writable : Bool
  append : Bool

structure Descriptor where
  /-- the open file, by number -/
  file : Nat
  /-- it is closed when its process becomes another program -/
  untilExec : Bool

/-- how a process ended -/
inductive Ending where
  | exited (code : Nat)
  | killed (s : Signal)
  deriving DecidableEq

/-- the status that a shell knows an ended process by -/
def Ending.status : Ending → Nat
  | .exited n => n
  | .killed s => 128 + s

inductive Condition where
  | running
  | stopped (by_ : Signal)
  | ended (e : Ending)
  deriving DecidableEq

structure Process where
  parent : Pid
  group : Pid
  cwd : FileTree.Id
  descriptors : List (Nat × Descriptor)
  dispositions : Dispositions
  /-- the permissions that new files lack -/
  mask : Nat
  limits : Limits
  /-- signals that came for the process's own functions and were not yet looked at -/
  caught : List Signal
  condition : Condition
  /-- its parent was not yet told that it was stopped -/
  unreported : Bool
  /-- when it is to be woken, if nothing wakes it before -/
  alarm : Option Nat

structure System where
  tree : FileTree
  opened : Array Opened
  processes : List (Pid × Process)
  nextPid : Pid
  /-- the time in microseconds -/
  now : Nat
  /-- how often something happened that a process may be waiting for -/
  happened : Nat

namespace System

/-- the process that takes in those whose parent has ended -/
def init : Pid := 1

def process? (s : System) (p : Pid) : Option Process := s.processes.lookup p

def modify (s : System) (p : Pid) (f : Process → Process) : System :=
  { s with processes := s.processes.map fun x => if x.1 = p then (p, f x.2) else x }

def notice (s : System) : System := { s with happened := s.happened + 1 }

/-- how fine the times of files are, in microseconds -/
def fileTick : Nat := 4000

def ticksPerSecond : Nat := 1000000 / fileTick

/-- when the system starts, in seconds since the beginning of 1970 -/
def startSecond : Nat := 1780300000

/-- the time of files that are there when the system starts -/
def startTick : Nat := startSecond * ticksPerSecond

def at_ (s : System) (time : Nat) : System :=
  { s with now := time, tree := { s.tree with now := startTick + time / fileTick } }

/-- the seconds since the beginning of 1970, and the part of the next one in billionths -/
def clock (s : System) : Nat × Nat :=
  (startSecond + s.now / 1000000, s.now % 1000000 * 1000)

/-- the time of a file as the clock tells it -/
def clockOf (ticks : Nat) : Nat × Nat :=
  (ticks / ticksPerSecond, ticks % ticksPerSecond * fileTick * 1000)

/-- the time of a file that was changed at a moment; the time before 1970 is not told apart -/
def ticksAt (seconds : Int) (nanos : Nat) : Nat :=
  seconds.toNat * ticksPerSecond + nanos / (fileTick * 1000)

def withTree (s : System) (t : FileTree) : System := { s with tree := t }

def cwd (s : System) (p : Pid) : FileTree.Id := ((s.process? p).map Process.cwd).getD FileTree.root

def mask (s : System) (p : Pid) : Nat := ((s.process? p).map Process.mask).getD 0

/-- the permissions that are left of `mode` when a process makes a file -/
def permitted (s : System) (p : Pid) (mode : Nat) : Nat := mode - (mode &&& s.mask p)

/-! Open files. -/

def descriptor? (s : System) (p : Pid) (fd : Nat) : Option Descriptor :=
  (s.process? p).bind fun x => x.descriptors.lookup fd

def opened? (s : System) (p : Pid) (fd : Nat) : Option (Nat × Opened) := do
  let d ← s.descriptor? p fd
  let o ← s.opened[d.file]?
  return (d.file, o)

def addOpened (s : System) (o : Opened) : Nat × System :=
  (s.opened.size, { s with opened := s.opened.push o })

def setOffset (s : System) (file offset : Nat) : System :=
  { s with opened := s.opened.modify file fun o => { o with offset := offset } }

/-- The node that a path names for a process. A name for one of its descriptors stands for what
that is open on. -/
def find (s : System) (p : Pid) (path : Bytes) (followLast : Bool := true) :
    FileTree.Answer FileTree.Id := do
  let n ← if followLast then s.tree.find (s.cwd p) path else s.tree.findLink (s.cwd p) path
  match s.tree.content n with
  | .descriptor fd =>
    match s.opened? p fd with
    | some (_, o) => return o.node
    | none => throw Errno.noEntry
  | _ => return n

def isUsed (s : System) (node : FileTree.Id) (as_ : Opened → Bool) : Bool :=
  s.processes.any fun (_, x) =>
    x.descriptors.any fun (_, d) => (s.opened[d.file]?).any fun o => o.node = node && as_ o

/-- somebody may still write to a pipe, or read from it -/
def hasWriter (s : System) (node : FileTree.Id) : Bool := s.isUsed node Opened.writable

def hasReader (s : System) (node : FileTree.Id) : Bool := s.isUsed node Opened.readable

/-- put an open file under a number, in the place of what was there -/
def setDescriptor (s : System) (p : Pid) (fd : Nat) (d : Descriptor) : System :=
  (s.modify p fun x =>
    { x with descriptors := (fd, d) :: x.descriptors.filter (·.1 ≠ fd) }).notice

def close (s : System) (p : Pid) (fd : Nat) : System :=
  (s.modify p fun x => { x with descriptors := x.descriptors.filter (·.1 ≠ fd) }).notice

def limits (s : System) (p : Pid) : Limits := ((s.process? p).map (·.limits)).getD []

/-- a process may have nothing open under a number -/
def forbids (s : System) (p : Pid) (fd : Nat) : Bool :=
  Limits.reaches fd (s.limits p).descriptors

/-- the least number from `low` on that a process has nothing open under -/
def freeNumber (s : System) (p : Pid) (low : Nat) : FileTree.Answer Nat :=
  let used := ((s.process? p).map Process.descriptors).getD []
  let fd := ((List.range (used.length + 1)).map (low + ·)).find? (fun fd => (used.lookup fd).isNone)
    |>.getD low
  if s.forbids p fd then .error Errno.tooManyOpen else .ok fd

/-! Processes. -/

/-- a process and its parent after the process has ended, and its children without it -/
def bereave (p : Pid) (e : Ending) (parent : Pid) (known : Bool) :
    Pid × Process → Option (Pid × Process)
  | (q, x) =>
    if q = p then
      if known then some (q, { x with descriptors := [], condition := .ended e, alarm := none })
      else none
    else if q = parent then
      match x.dispositions .child with
      | .handler _ => some (q, { x with caught := x.caught ++ [.child] })
      | _ => some (q, x)
    else if x.parent = p then
      match x.condition with
      | .ended _ => none
      | _ => some (q, { x with parent := init })
    else some (q, x)

/-- A process ends. Its parent hears of it when it asks, if it cares about its children at all. -/
def terminate (s : System) (p : Pid) (e : Ending) : System :=
  match s.process? p with
  | none => s
  | some x =>
    let known : Bool := match s.process? x.parent with
      | some y => y.dispositions .child ≠ .ignored
      | none => false
    { s with processes := s.processes.filterMap (bereave p e x.parent known) }.notice

/-- what a signal does to a process -/
def deliver (s : System) (p : Pid) (x : Process) (sig : Signal) : System :=
  let resumed : System :=
    if sig = Signal.cont ∧ x.condition matches .stopped _ then
      s.modify p fun x => { x with condition := .running }
    else s
  match x.dispositions.effect sig with
  | .nothing => resumed.notice
  | .caught => (resumed.modify p fun x => { x with caught := x.caught ++ [sig] }).notice
  | .stopped => (s.modify p fun x => { x with condition := .stopped sig, unreported := true }).notice
  | .ended => s.terminate p (.killed sig)

/-- send a signal to a process; nothing is left of one that has ended -/
def send (s : System) (p : Pid) (sig : Signal) : System :=
  match s.process? p with
  | none => s
  | some x =>
    match x.condition with
    | .ended _ => s
    | _ => if sig = 0 then s else s.deliver p x sig

/-- the processes that a number names as a target of signals: one, or a group -/
def targets (s : System) (p : Pid) (number : Int) : List Pid :=
  let members (g : Pid) : List Pid :=
    (s.processes.filter fun (_, x) => x.group = g).map Prod.fst
  if 0 < number then
    if (s.process? number.toNat).isSome then [number.toNat] else []
  else if number = 0 then members (((s.process? p).map Process.group).getD 0)
  else if number = -1 then (s.processes.map Prod.fst).filter (· ≠ p)
  else members (-number).toNat

/-- send a signal to what a number names, to the sender last -/
def signal (s : System) (p : Pid) (number : Int) (sig : Signal) : Option Int × System :=
  match s.targets p number with
  | [] => (some Errno.noProcess, s)
  | ps =>
    let (own, others) := ps.partition (· = p)
    (none, (others ++ own).foldl (fun s q => s.send q sig) s)

/-- a copy of a process as its child -/
def fork (s : System) (p : Pid) : Pid × System :=
  match s.process? p with
  | none => (s.nextPid, s)
  | some x =>
    let child := { x with parent := p, caught := [], alarm := none, unreported := false }
    (s.nextPid,
     { s with processes := s.processes ++ [(s.nextPid, child)], nextPid := s.nextPid + 1 })

/-- what is left of a process as it becomes another program -/
def becomeProgram (s : System) (p : Pid) : System :=
  (s.modify p fun x => { x with
    descriptors := x.descriptors.filter fun d => !d.2.untilExec
    dispositions := x.dispositions.afterExec
    caught := []
    alarm := none }).notice

def isRunning (s : System) (p : Pid) : Bool :=
  ((s.process? p).map Process.condition) matches some .running

/-- the ending of a process that its parent has not yet heard of -/
def ending? (s : System) (p : Pid) : Option Ending :=
  match (s.process? p).map Process.condition with
  | some (.ended e) => some e
  | _ => none

/-- what a parent hears of its children -/
inductive News where
  | ended (p : Pid) (e : Ending)
  | stopped (p : Pid) (by_ : Signal)

/-- The next news of the children of a process that `wanted` picks, none if there is none yet. It
is heard once. -/
def news (s : System) (p : Pid) (wanted : Pid → Bool) (alsoStopped : Bool) :
    Option (News × System) :=
  s.processes.findSome? fun (q, x) =>
    if x.parent ≠ p || !wanted q then none
    else match x.condition with
      | .ended e =>
        some (.ended q e, { s with processes := s.processes.filter (·.1 ≠ q) })
      | .stopped by_ =>
        if alsoStopped && x.unreported then
          some (.stopped q by_, s.modify q fun x => { x with unreported := false })
        else none
      | .running => none

def hasChild (s : System) (p : Pid) (wanted : Pid → Bool) : Bool :=
  s.processes.any fun (q, x) => x.parent = p && wanted q

end System
end JarLauncher.Unix
