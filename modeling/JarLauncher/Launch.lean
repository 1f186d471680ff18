import JarLauncher.Command
import JarLauncher.Console
import JarLauncher.Log.Event

/-! A launch: find the working directory, build the command line, announce it on the console, and
hand it to the shell. A directory that cannot be found is replaced by the empty one and a console
that fails is left alone; both are only logged. -/

namespace JarLauncher

/-- how the shell finished: an exit code, or none if a signal ended it -/
structure Outcome where
  exitCode : Option Int
  deriving DecidableEq, Repr

def Outcome.success (o : Outcome) : Bool := o.exitCode == some 0

structure Report where
  command : Command
  outcome : Outcome
  deriving DecidableEq

/-- a shell on a state `σ`: running a line answers an outcome or an error, and logs -/
structure Runner (σ : Type) where
  name : String
  execute : Bytes → σ → (Except LaunchError Outcome × List Log.Event) × σ

/-- what a launch needs of its surroundings -/
structure Surroundings (σ : Type) where
  currentDir : σ → Except LaunchError Bytes
  console : Console σ
  shell : Runner σ

namespace Launch

variable {σ : Type}

def banner : String := "Launching Sequencer"

def label : String := "Running command: "

/-- the announcement in the pieces it is written in -/
def pieces (c : Command) : List Bytes :=
  [banner, "\n", label, c.display, "\n"].map Utf8.encode

def announce (console : Console σ) (c : Command) (s : σ) : Option IoError × σ :=
  match console.writePieces (pieces c) s with
  | (none, s') => console.flush s'
  | failed => failed

/-- the directory to launch from, and what is logged about finding it -/
def resolve (found : Except LaunchError Bytes) : Bytes × List Log.Event :=
  match found with
  | .ok dir => (dir, [])
  | .error e => ([], [.directoryMissing e.message])

def quotingEvents (c : Command) : List Log.Event :=
  if c.needsQuoting then [.directoryUnquoted c.dir] else []

def consoleEvents (failure : Option IoError) : List Log.Event :=
  failure.toList.map fun e => .consoleFailed (LaunchError.console e).message

def exitEvents (shell : String) : Except LaunchError Outcome → List Log.Event
  | .ok outcome => [.exited shell outcome.exitCode]
  | .error _ => []

/-- one launch: its report or the shell's error, its log, and the state it leaves -/
structure Run (σ : Type) where
  result : Except LaunchError Report
  log : List Log.Event
  state : σ

def execute (around : Surroundings σ) (profile : Profile) (s : σ) : Run σ :=
  let (dir, missing) := resolve (around.currentDir s)
  let command := Command.ofDir dir profile
  let (failure, s) := announce around.console command s
  let ((outcome, own), s) := around.shell.execute command.line s
  { result := outcome.map (Report.mk command)
    log := missing ++ quotingEvents command ++ consoleEvents failure ++ own ++
      exitEvents around.shell.name outcome
    state := s }

end Launch
end JarLauncher
