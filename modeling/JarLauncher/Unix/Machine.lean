import JarLauncher.Unix.Activity

/-! The processes of a system at work. Each is due at a time of its own; the one that is due first
makes its next call. One that has to wait is due again when something has happened. -/

namespace JarLauncher.Unix

structure Running where
  pid : Pid
  activity : Activity
  /-- when its next call is due -/
  due : Nat
  /-- it found that it had to wait -/
  waiting : Bool

structure Machine where
  system : System
  running : List Running

namespace Machine

/-- how long it takes to make a copy of a process, until the copy starts, until a program starts,
and until one that waited goes on, in microseconds -/
def forkTime : Nat := 100

def startTime : Nat := 250

def execTime : Nat := 700

def wakeTime : Nat := 30

/-- when a process would make its next call; none if it waits for something to happen -/
def dueTime? (s : System) (r : Running) : Option Nat :=
  match s.process? r.pid with
  | none => none
  | some x =>
    if x.condition ≠ .running then none
    else if r.waiting then x.alarm.map (max r.due ·) else some r.due

def earlier (s : System) (best : Option (Nat × Running)) (r : Running) : Option (Nat × Running) :=
  match dueTime? s r, best with
  | none, _ => best
  | some time, none => some (time, r)
  | some time, some (t, b) => if time < t then some (time, r) else some (t, b)

/-- the process that is due first -/
def next? (m : Machine) : Option (Nat × Running) := m.running.foldl (earlier m.system) none

def isThere (s : System) (r : Running) : Bool :=
  match (s.process? r.pid).map Process.condition with
  | some (.ended _) | none => false
  | _ => true

/-- The machine after a call at `time`: `r` and those in `more` go on as they say. If something
happened, everyone who waits looks again. -/
def settle (system : System) (time happened : Nat) (others : List Running) (mine : List Running) :
    Machine :=
  if system.happened = happened then ⟨system, others ++ mine⟩
  else
    let woken := others.map fun r =>
      if r.waiting then { r with waiting := false, due := max r.due (time + wakeTime) } else r
    ⟨system, (woken ++ mine).filter (isThere system)⟩

/-- one process makes its next call -/
def step (programs : Image → Activity) (m : Machine) (time : Nat) (r : Running) : Machine :=
  let ⟨system, running⟩ := m
  let others := running.filter fun x => x.pid ≠ r.pid
  let happened := system.happened
  let system := system.at_ (max system.now time)
  match r.activity with
  | .exit status => settle (system.terminate r.pid (.exited (status % 256))) time happened others []
  | .become image =>
    settle system time happened others
      [{ r with activity := programs image, due := time + execTime, waiting := false }]
  | .fork child rest =>
    let (p, system) := system.fork r.pid
    settle system time happened others
      [{ r with activity := rest p, due := time + forkTime, waiting := false },
       ⟨p, child, time + startTime, false⟩]
  | .call cost run =>
    let (answer, system) := run r.pid system
    let mine : Running := match answer with
      | some activity => { r with activity := activity, due := time + cost, waiting := false }
      | none => { r with due := time, waiting := true }
    settle system time happened others [mine]

/-- go on until `stop`, until everyone waits for someone else, or for `fuel` calls -/
def run (programs : Image → Activity) (stop : System → Nat → Bool) : Nat → Machine → Machine
  | 0, m => m
  | fuel + 1, m =>
    match m.next? with
    | none => m
    | some (time, r) =>
      if stop m.system time then m else run programs stop fuel (m.step programs time r)

end Machine
end JarLauncher.Unix
