import JarLauncher.Text.Quoted

/-! What the launcher logs. Every event has a message, named fields, and a target that filters
select it by. -/

namespace JarLauncher.Log

inductive Event where
  /-- arguments on the launcher's own command line -/
  | argumentsIgnored (count : Nat)
  /-- a working directory that could not be resolved -/
  | directoryMissing (error : String)
  | directoryUnquoted (dir : Bytes)
  | consoleFailed (error : String)
  | spawning (shell : String) (line : Bytes)
  | exited (shell : String) (code : Option Int)
  | launchFailed (error : String)
  deriving DecidableEq

def exitText : Option Int → String
  | some n => "Some(" ++ toString n ++ ")"
  | none => "None"

namespace Event

def message : Event → String
  | argumentsIgnored _ => "ignoring command-line arguments"
  | directoryMissing _ => "continuing with empty working directory"
  | directoryUnquoted _ => "working directory contains characters the shell may split or expand"
  | consoleFailed _ => "console output failed"
  | spawning _ _ => "spawning command interpreter"
  | exited _ _ => "command interpreter exited"
  | launchFailed _ => "launch failed"

def fields : Event → List (String × String)
  | argumentsIgnored n => [("count", toString n)]
  | directoryMissing e => [("error", e)]
  | directoryUnquoted d => [("working_dir", Text.Quoted.quote d)]
  | consoleFailed e => [("error", e)]
  | spawning s l => [("shell", s), ("command", Text.Quoted.quote l)]
  | exited s c => [("shell", s), ("exit_code", exitText c)]
  | launchFailed e => [("error", e)]

/-- the names that a filter may ask for -/
def fieldNames (e : Event) : List String := "message" :: e.fields.map Prod.fst

def target : Event → String
  | argumentsIgnored _ | launchFailed _ => "sequencer_launcher::app::cli"
  | spawning _ _ => "sequencer_launcher::adapters::system_shell"
  | _ => "sequencer_launcher::app::commands::launch"

/-- the fields as a log line shows them: as in `fields`, but the shell that exited is quoted -/
def lineFields (e : Event) : List (String × String) :=
  match e with
  | exited s _ => e.fields.map fun (k, v) =>
      (k, if k = "shell" then Text.Quoted.quote (Utf8.encode s) else v)
  | _ => e.fields

/-- the event on one line, without the time it was logged at -/
def line (e : Event) : String :=
  e.lineFields.foldl (fun text (k, v) => text ++ " " ++ k ++ "=" ++ v) ("DEBUG " ++ e.message)

end Event
end JarLauncher.Log
