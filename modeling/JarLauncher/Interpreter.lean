import JarLauncher.Launch
import JarLauncher.Signal

/-! The command interpreter as the shell of a launch. The caller ignores console interrupts while it
waits; the child gets back what was done about them before, so an interrupt still ends it. -/

namespace JarLauncher

/-- how a system answers a request for a child that runs a line -/
inductive Spawned where
  | refused (cause : IoError)
  /-- the child is gone, with an exit code or by a signal -/
  | ended (code : Option Int)
  deriving DecidableEq

/-- A system that starts children. A request says what the caller does about signals while it waits
and what the child does about them as it becomes the interpreter. -/
structure Spawner (σ : Type) where
  start : Bytes → (waiting child : Dispositions) → σ → Spawned × σ

namespace Interpreter

variable {τ σ : Type}

def program : String := "/bin/sh"

def outcome : Spawned → Except LaunchError Outcome
  | .refused cause => .error (.shellSpawn program cause.text)
  | .ended code => .ok ⟨code⟩

/-- Run a line, with the interrupts ignored from before the child starts until it is gone. The child
is a copy of the caller, so it undoes the ignoring for itself. -/
def execute (table : SignalTable τ) (spawner : Spawner σ) (line : Bytes) (s : τ × σ) :
    Except LaunchError Outcome × (τ × σ) :=
  let (guard, t) := Guard.engage table s.1
  let waiting := table.dispositions t
  let (spawned, system) := spawner.start line waiting (guard.restoreInChild waiting) s.2
  (outcome spawned, guard.restore table t, system)

/-- the interpreter as a shell; it logs each line it is about to run -/
def runner (spawner : Spawner σ) : Runner (Dispositions × σ) where
  name := program
  execute line s :=
    let (answer, s') := execute .own spawner line s
    ((answer, [.spawning program line]), s')

end Interpreter
end JarLauncher
