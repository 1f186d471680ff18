import JarLauncher.Unix.Scene

/-! The launcher as a program. It launches from the current directory, with the runtime found there,
on a system of its own that holds nothing else; what the launch writes goes to the program's own
streams. -/

namespace JarLauncher

open Shell (text)

def octets (s : String) : Bytes := s.toUTF8.toList

/-- the environment that launches depend on -/
def readEnvironment : IO (List (Bytes × Bytes)) := do
  let values ← ["HOME", "PATH", "LC_ALL", "SEQUENCER_LAUNCHER_LOG"].mapM fun name =>
    return (name, ← IO.getEnv name)
  return values.filterMap fun (name, value) => value.map fun v => (octets name, octets v)

/-- the runtime of the current directory, if there is one -/
def readRuntime : IO (List Unix.Placed) := do
  try
    let content ← IO.FS.readBinFile "jre/bin/java"
    return [⟨text "jre/bin/java", content.toList, true⟩]
  catch _ => return []

end JarLauncher

open JarLauncher in
def main (args : List String) : IO UInt32 := do
  let dir := octets (← IO.currentDir).toString
  let scene := Unix.Scene.ofLayout ⟨[], ← readRuntime⟩ dir
  let run := scene.runCommand ⟨args.map octets, ← readEnvironment, .captured, []⟩
  (← IO.getStdout).write ⟨run.written.output.toArray⟩
  (← IO.getStderr).write ⟨run.written.messages.toArray⟩
  return run.ending.status.toUInt32
