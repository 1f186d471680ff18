import JarLauncher.Interpreter
import JarLauncher.Unix.Installation

/-! A launcher as a process of the system: its working directory, its console and its interpreter
are the system's. While it waits for its child, all processes go on. -/

namespace JarLauncher.Unix

open Shell (text)

structure Launcher where
  machine : Machine
  pid : Pid
  env : List (Bytes × Bytes)

theorem System.write_ne_interrupted (s : System) (p : Pid) (fd : Nat) (piece : ByteArray) :
    (s.write p fd piece).1 ≠ some (.failed Errno.interrupted) := by
  unfold System.write
  repeat' split
  all_goals simp [Errno.interrupted, Errno.badDescriptor, Errno.noSpace, Errno.invalid]
  all_goals split <;> simp

namespace Launcher

def system (l : Launcher) : System := l.machine.system

def withSystem (l : Launcher) (s : System) : Launcher :=
  { l with machine := { l.machine with system := s } }

/-- the signal that ended the launcher, if one did -/
def endedBy (l : Launcher) : Option Signal :=
  match l.system.ending? l.pid with
  | some (.killed s) => some s
  | _ => none

def currentDir (l : Launcher) : Except LaunchError Bytes :=
  match l.system.tree.pathOf (l.system.cwd l.pid) with
  | .ok path => .ok path
  | .error e => .error (.workingDirectory (IoError.system e).text)

/-- what came of a write that ignores broken pipes -/
def written : Option System.WriteResult → Written
  | some (.took count) => .accepted count
  | some (.failed e) => .failed (.system e)
  | some .tooLarge => .failed (.system Errno.tooLarge)
  | some .broken | none => .failed (.system Errno.brokenPipe)

theorem written_not_interrupted {r : Option System.WriteResult} {e : IoError}
    (hr : r ≠ some (.failed Errno.interrupted)) (h : written r = .failed e) :
    e.isInterrupted = false := by
  match r with
  | some (.took _) => simp [written] at h
  | some (.failed n) =>
    simp only [written, Written.failed.injEq] at h
    subst h
    simpa [IoError.isInterrupted] using fun hn => hr (by rw [hn])
  | some .tooLarge | some .broken | none =>
    simp only [written, Written.failed.injEq] at h
    subst h
    rfl

/-- the launcher's standard output as a console -/
def console : Console (Dispositions × Launcher) where
  write bs s :=
    let (r, system) := s.2.system.write s.2.pid 1 (Act.octets bs)
    (written r, s.1, s.2.withSystem system)
  flush s := (none, s)
  patient := Console.patient_of_never fun bs s _ h =>
    written_not_interrupted (System.write_ne_interrupted _ s.2.pid 1 (Act.octets bs)) h

def nulByte : IoError := .custom .invalidInput "nul byte found in provided data"

/-- the calls that are made at most until a child has ended -/
def patience : Nat := 1000000000000

/-- how long the launcher takes to find that its child has ended, in microseconds -/
def reaction : Nat := 800

/-- what a child does about signals as it starts: broken pipes end it again -/
def inChild (d : Dispositions) : Dispositions := (d.set .pipe .default).afterExec

/-- let all processes go on until a child of the launcher has ended, or the launcher itself has -/
def await (m : Machine) (launcher child : Pid) : Machine :=
  let isDone (s : System) (_ : Nat) : Bool := !s.isRunning launcher || (s.ending? child).isSome
  let m := m.run Installation.activity isDone patience
  let late := m.system.now + reaction
  m.run Installation.activity (fun _ time => late < time) patience

/-- the exit code of a child that has ended; its parent has heard of it then -/
def heard (s : System) (launcher child : Pid) : Option Int × System :=
  match s.news launcher (· = child) false with
  | some (.ended _ (.exited code), s) => (some code, s)
  | some (_, s) => (none, s)
  | none => (none, s)

def spawner : Spawner Launcher where
  start line waiting child l :=
    if line.contains 0 then (.refused nulByte, l)
    else
      let s := l.system.modify l.pid fun x => { x with dispositions := waiting }
      let path := Utf8.encode Interpreter.program
      match s.image l.pid path [path, text "-c", line] l.env with
      | .error e => (.refused (.system e), l)
      | .ok image =>
        let (pid, s) := s.fork l.pid
        let s := (s.modify pid fun x => { x with dispositions := inChild child }).becomeProgram pid
        let starting : Running :=
          ⟨pid, Installation.activity image, s.now + Machine.startTime + Machine.execTime, false⟩
        let m := await ⟨s, l.machine.running ++ [starting]⟩ l.pid pid
        let (code, s) := heard m.system l.pid pid
        (.ended code, { l with machine := { m with system := s } })

def surroundings : Surroundings (Dispositions × Launcher) where
  currentDir s := s.2.currentDir
  console := console
  shell := Interpreter.runner spawner

end Launcher
end JarLauncher.Unix
