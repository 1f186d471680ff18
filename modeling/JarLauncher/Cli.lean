import JarLauncher.Launch

/-! The launcher as a command. Its arguments are counted for the log and never used, and a setting
chooses what of the log is shown. It ends normally whatever becomes of the launch; only if reading
the setting breaks off, it ends before there is one. How arguments and settings are read is not the
launcher's own business: it is part of a setup. -/

namespace JarLauncher.Cli

variable {σ : Type}

def argumentEvents (counted : List Bytes) : List Log.Event :=
  if counted = [] then [] else [.argumentsIgnored counted.length]

def failureEvents : Except LaunchError Report → List Log.Event
  | .ok _ => []
  | .error e => [.launchFailed e.message]

/-- one run: what is shown of its log, its exit code, and the state it leaves -/
structure Run (σ : Type) where
  shown : List Log.Event
  exitCode : Nat
  state : σ

/-- the exit code of a run that breaks off before the launch -/
def abandoned : Nat := 101

/-- what comes of reading the setting that chooses what of the log is shown -/
inductive Reading where
  | filter (shows : Log.Event → Bool)
  /-- there is no setting, or it is no filter -/
  | invalid
  /-- the reading does not come to an end of its own -/
  | broken

/-- what a filter shows; nothing is shown in the place of one that is invalid -/
def Reading.shows? : Reading → Option (Log.Event → Bool)
  | filter shows => some shows
  | invalid => some fun _ => false
  | broken => none

/-- what a run relies on before its launch -/
structure Setup where
  /-- the arguments that count, if the arguments can be read -/
  read : List Bytes → Option (List Bytes)
  readFilter : Option Bytes → Reading
  /-- the log can be shown -/
  installs : Bool

namespace Setup

/-- Arguments that cannot be read are as good as none, and a log that cannot be shown is left
alone. -/
def run (setup : Setup) (around : Surroundings σ) (args : List Bytes) (setting : Option Bytes)
    (s : σ) : Run σ :=
  match (setup.readFilter setting).shows? with
  | none => ⟨[], abandoned, s⟩
  | some shows =>
    let launch := Launch.execute around Profile.bundled s
    let counted := (setup.read args).getD []
    let log := argumentEvents counted ++ launch.log ++ failureEvents launch.result
    { shown := if setup.installs then log.filter shows else []
      exitCode := 0
      state := launch.state }

end Setup
end JarLauncher.Cli
