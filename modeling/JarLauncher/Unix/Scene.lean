import JarLauncher.Cli.Standard
import JarLauncher.Log.Transcript
import JarLauncher.Unix.Launcher

/-! A scene: a scratch directory with the files that a launcher finds there, the launchers and lines
run in it one after another, and what they leave. -/

namespace JarLauncher.Unix

open Shell (text)

/-- a file under a path below the scratch directory -/
structure Placed where
  path : Bytes
  content : Bytes
  executable : Bool

/-- what a scratch directory holds at first -/
structure Layout where
  /-- the work directory -/
  dir : Bytes
  files : List Placed

/-- a scratch directory in its system -/
structure Scene where
  machine : Machine
  root : FileTree.Id
  work : FileTree.Id

namespace Layout

/-- the runtime of a work directory: a script with this body -/
def runtime (dir body : Bytes) (executable : Bool) : Placed :=
  ⟨Path.join dir (text "jre/bin/java"), text "#!/bin/sh\n" ++ body ++ text "\n", executable⟩

def jar (dir : Bytes) : Placed := ⟨Path.join dir (text "sequencer.jar"), [], false⟩

/-- put a file below `root`, with its directories -/
def place (root : FileTree.Id) (t : FileTree) (f : Placed) : FileTree :=
  let comps := (Path.bare f.path).1
  let (t, d) := t.mkdirs root comps.dropLast
  let mode := if f.executable then FileTree.dirMode else FileTree.fileMode
  match t.putFile d (comps.getLastD []) mode (Act.octets f.content) with
  | .ok t => t
  | .error _ => t

end Layout

namespace Scene

/-- the path of a scratch directory -/
def rootPath : Bytes := text "/tmp/scratch"

def ofLayout (layout : Layout) (path : Bytes := rootPath) : Scene :=
  let system := Installation.system
  let (t, root) := system.tree.mkdirs FileTree.root (Path.bare path).1
  let (t, work) := t.mkdirs root (Path.bare layout.dir).1
  ⟨⟨system.withTree (layout.files.foldl (Layout.place root) t), []⟩, root, work⟩

def system (s : Scene) : System := s.machine.system

def tree (s : Scene) : FileTree := s.system.tree

def withTree (s : Scene) (t : FileTree) : Scene :=
  { s with machine := { s.machine with system := s.system.withTree t } }

def withMachine (s : Scene) (m : Machine) : Scene := { s with machine := m }

/-- what a path below the scratch directory holds -/
def read (s : Scene) (path : Bytes) : Option Bytes := s.tree.contents? s.root path

/-- remove the work directory if it is empty; those who are in it stay -/
def removeEmptyWork (s : Scene) : Scene :=
  match s.tree.pathOf s.work >>= s.tree.rmdir FileTree.root with
  | .ok t => s.withTree t
  | .error _ => s

/-- remove the work directory with all that is in it; those who are in it stay -/
def removeWork (s : Scene) : Scene :=
  match s.tree.pathOf s.work with
  | .ok path => s.withTree (s.tree.removeAll FileTree.root path).2
  | .error _ => s

def environment : List (Bytes × Bytes) :=
  [(text "HOME", text "/nonexistent"), (text "PATH", text "/usr/bin:/bin"),
   (text "LC_ALL", text "C")]

/-- where the standard output of a launcher goes -/
inductive Sink where
  | captured
  | full
  /-- a pipe that nobody reads -/
  | unread

def Sink.content : Sink → Content
  | .captured => .file ByteArray.empty
  | .full => .device .full
  | .unread => .pipe ByteArray.empty 0

/-- a launcher in the work directory, and where its output and its messages go -/
structure Started where
  launcher : Launcher
  output : FileTree.Id
  messages : FileTree.Id

/-- a new node, open as the given file -/
def openNew (s : System) (x : Content) (readable : Bool) : FileTree.Id × Nat × System :=
  let (n, t) := s.tree.add x FileTree.fileMode
  let (file, s) := (s.withTree t).addOpened ⟨n, 0, readable, !readable, false⟩
  (n, file, s)

/-- a launcher that leads a group of its own, under a process that hears of its end -/
def start (s : Scene) (sink : Sink) (env : List (Bytes × Bytes)) : Started :=
  let (_, input, y) := openNew s.system (.device .null) true
  let (output, out, y) := openNew y sink.content false
  let (messages, err, y) := openNew y (.file ByteArray.empty) false
  let starter := y.nextPid
  let pid := starter + 1
  let process (parent group : Pid) := Installation.process parent group s.work Dispositions.initial
  let own := { process starter pid with
    descriptors := [(0, ⟨input, false⟩), (1, ⟨out, false⟩), (2, ⟨err, false⟩)] }
  let y := { y with
    processes := y.processes ++ [(starter, process System.init starter), (pid, own)]
    nextPid := pid + 1 }
  ⟨⟨{ s.machine with system := y }, pid, env⟩, output, messages⟩

/-- what is held by a node that was written to -/
def held (s : System) (n : FileTree.Id) : Bytes :=
  match s.tree.content n with
  | .file data => data.toList
  | _ => []

/-- a launcher ignores broken pipes, and what its starter ignored -/
def dispositions (ignored : List Signal) : Dispositions :=
  ignored.foldl (fun d s => d.set s .ignored) (Dispositions.initial.set .pipe .ignored)

/-- what was written, to standard output and to standard error -/
structure Written where
  output : Bytes
  messages : Bytes

def Started.written (st : Started) (l : Launcher) : Written :=
  ⟨held l.system st.output, held l.system st.messages⟩

/-- one line run by the interpreter, and what the caller does about signals afterwards -/
structure LineRun where
  answer : Except LaunchError Outcome
  log : List Log.Event
  after : Dispositions
  written : Written
  scene : Scene

def runLine (s : Scene) (ignored : List Signal) (line : Bytes) : LineRun :=
  let st := s.start .captured environment
  let ((answer, log), (after, l)) :=
    (Interpreter.runner Launcher.spawner).execute line (dispositions ignored, st.launcher)
  ⟨answer, log, after, st.written l, s.withMachine l.machine⟩

/-- the lines one after another -/
def runLines (s : Scene) (ignored : List Signal) : List Bytes → List LineRun × Scene
  | [] => ([], s)
  | line :: rest =>
    let r := s.runLine ignored line
    let (more, last) := r.scene.runLines ignored rest
    (r :: more, last)

/-- one launch in the work directory -/
structure LaunchRun where
  result : Except LaunchError Report
  log : List Log.Event
  written : Written
  scene : Scene

def launch (s : Scene) (profile : Profile) : LaunchRun :=
  let st := s.start .captured environment
  let run := Launch.execute Launcher.surroundings profile (dispositions [], st.launcher)
  ⟨run.result, run.log, st.written run.state.2, s.withMachine run.state.2.machine⟩

/-- how the launcher is run as a command -/
structure Invocation where
  args : List Bytes
  /-- the variables beside the usual ones; of two for one name the later counts -/
  env : List (Bytes × Bytes)
  sink : Sink
  ignored : List Signal

/-- the variables of a command, each once, in the order of their names -/
def Invocation.variables (i : Invocation) : List (Bytes × Bytes) :=
  let all := (environment ++ i.env).foldl (fun vars (name, value) =>
    (name, value) :: vars.filter fun v => v.1 ≠ name) []
  all.mergeSort fun a b => a.1 ≤ b.1

def settingName : Bytes := text "SEQUENCER_LAUNCHER_LOG"

/-- a run of the launcher as a command: what it wrote, and how it ended -/
structure CommandRun where
  ending : Ending
  written : Written
  scene : Scene

/-- write what is shown of the log to a launcher's standard error, if it is still there -/
def report (l : Launcher) (events : List Log.Event) : Launcher :=
  if l.system.isRunning l.pid then
    l.withSystem (events.foldl (fun s e =>
      (s.write l.pid 2 (Act.octets (Log.Transcript.write s.now e))).2) l.system)
  else l

/-- A shell that only says what it would run. What a launcher logs before its child starts is what
it logs with this shell. -/
def idleShell : Runner (Dispositions × Launcher) where
  name := Interpreter.program
  execute line s := ((.ok ⟨none⟩, [.spawning Interpreter.program line]), s)

def isAfterChild : Log.Event → Bool
  | .exited .. | .launchFailed _ => true
  | _ => false

def runCommand (s : Scene) (i : Invocation) : CommandRun :=
  let vars := i.variables
  let st := s.start i.sink vars
  let run (around : Surroundings (Dispositions × Launcher)) (l : Launcher) :=
    Cli.Setup.standard.run around i.args (vars.lookup settingName) (dispositions i.ignored, l)
  let early := (run { Launcher.surroundings with shell := idleShell } st.launcher).shown
  let result := run Launcher.surroundings
    (report st.launcher (early.filter fun e => !isAfterChild e))
  let l := report result.state.2 (result.shown.filter isAfterChild)
  let ending := match l.endedBy with
    | some by_ => Ending.killed by_
    | none => Ending.exited result.exitCode
  ⟨ending, st.written l, s.withMachine l.machine⟩

def runCommands (s : Scene) (i : Invocation) : Nat → List CommandRun × Scene
  | 0 => ([], s)
  | n + 1 =>
    let r := s.runCommand i
    let (more, last) := r.scene.runCommands i n
    (r :: more, last)

/-! Walks through directories. -/

inductive Move where
  | mkdir (path : Bytes)
  | chdir (path : Bytes)
  | rmdir (path : Bytes)
  | rename (path goal : Bytes)
  | symlink (path goal : Bytes)
  /-- remove what is below the scratch directory under a path, with all that is in it -/
  | removeAll (path : Bytes)

def tryTree (s : Scene) : FileTree.Answer FileTree → Bool × Scene
  | .ok t => (true, s.withTree t)
  | .error _ => (false, s)

/-- a path below the scratch directory, from the root -/
def below (s : Scene) (path : Bytes) : FileTree.Answer Bytes := do
  return Path.join (← s.tree.pathOf s.root) path

def move (s : Scene) : Move → Bool × Scene
  | .mkdir path => s.tryTree (s.tree.mkdir s.work path)
  | .chdir path =>
    match s.tree.chdir s.work path with
    | .ok n => (true, { s with work := n })
    | .error _ => (false, s)
  | .rmdir path => s.tryTree (s.tree.rmdir s.work path)
  | .rename path goal => s.tryTree (s.tree.rename s.work path goal)
  | .symlink path goal => s.tryTree (s.tree.symlink s.work goal path)
  | .removeAll path =>
    match s.below path with
    | .error _ => (false, s)
    | .ok path =>
      let (refused, t) := s.tree.removeAll FileTree.root path
      (refused.isNone, s.withTree t)

/-- after each move: whether it was made, and the current directory -/
def walk (s : Scene) : List Move → List (Bool × Except LaunchError Bytes)
  | [] => []
  | m :: rest =>
    let (ok, s') := s.move m
    (ok, (s'.start .captured environment).launcher.currentDir) :: s'.walk rest

end Scene
end JarLauncher.Unix
