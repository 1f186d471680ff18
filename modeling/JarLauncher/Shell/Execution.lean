import JarLauncher.Shell.Search
import JarLauncher.Shell.Job

/-! Putting a program in the place of a shell. A file that is no program is read by another shell if
its first line looks like text. -/

namespace JarLauncher.Shell.Execution

open Unix

/-- an octet that text does not hold -/
def isBinary (b : UInt8) : Bool := (b < 32 && !(9 ≤ b && b ≤ 15) && b ≠ 27) || b == 127

/-- how much of a file is looked at -/
def headSize : Nat := 128

def looksLikeText (s : System) (p : Pid) (path : Bytes) : Bool :=
  match s.find p path with
  | .ok n =>
    match s.tree.content n with
    | .file data =>
      let line := (data.extract 0 headSize).toList.takeWhile (· ≠ newline)
      !line.any isBinary
    | _ => false
  | .error _ => false

/-- become the program in a file; it answers only if that cannot be -/
def attempt (path : Bytes) (argv : List Bytes) (env : List (Bytes × Bytes)) : Act Int := do
  let e ← Act.exec path argv env
  if e ≠ Errno.badFormat then return e
  if !(← Act.ask fun p s => looksLikeText s p path) then return e
  Act.exec Act.shellPath (Act.shellPath :: path :: argv.drop 1) env

/-- try the directories of a path one after another -/
def attemptIn (name : Bytes) (argv : List Bytes) (env : List (Bytes × Bytes)) (errno : Int) :
    List CommandPath.Dir → Act Int
  | [] => return errno
  | d :: ds => do
    if d.mark.isSome then attemptIn name argv env errno ds
    else
      let e ← attempt (CommandPath.fileIn d name) argv env
      let isThere := e ≠ Errno.noEntry ∧ e ≠ Errno.notDirectory
      attemptIn name argv env (if isThere then e else errno) ds

/-- the status of a shell whose program cannot be started -/
def failureStatus (e : Int) : Nat :=
  if [Errno.linkLoop, Errno.nameTooLong, Errno.noEntry, Errno.notDirectory].contains e then 127
  else 126

/-- Put a program in the place of this shell. It is looked for in the path from the directory with
the place `index` on. -/
def replace (argv : List Bytes) (path : Bytes) (index : Nat) : Sh Unit := do
  let env := (← get).exported
  let name := argv.headD []
  let e ← Sh.act (if name.contains 47 then attempt name argv env
    else attemptIn name argv env Errno.noEntry ((CommandPath.dirs path).drop index))
  Sh.setStatus (failureStatus e)
  Sh.complain [name, text ": ", text (Redirection.reason .run e)]
  throw .finished

/-- run a program in a child and wait for it -/
def spawn (argv : List Bytes) (path : Bytes) (index : Nat) : Sh Unit := do
  let number ← Sh.newJob
  let m ← get
  let child : Activity := replace argv path index m fun (_, m) => .exit m.status
  let pid ← Sh.act (Act.fork child)
  Sh.changeJob number fun j => { j with processes := j.processes ++ [⟨pid, none⟩] }
  Sh.finishJob number

end JarLauncher.Shell.Execution
