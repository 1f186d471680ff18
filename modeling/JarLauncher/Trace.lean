import JarLauncher.Launch

/-! The calls a launch makes on its console and shell, newest first. `Surroundings.traced` keeps
them beside the state and leaves the answers alone. -/

namespace JarLauncher

inductive Call where
  | write (taken : Bytes)
  | writeFailed
  | flush
  | execute (line : Bytes)
  deriving DecidableEq

namespace Call

/-- the record of one write; one that was refused counts as failed, also if it answered that it
took nothing -/
def ofWrite (refused : Bool) (bs : Bytes) : Written → Call
  | .accepted n => if refused then .writeFailed else .write (bs.take n)
  | .failed _ => .writeFailed

def joinWrite (c : Call) (later : List Call) : List Call :=
  match c, later with
  | write a, write b :: more => write (a ++ b) :: more
  | _, _ => c :: later

/-- calls in order, with adjacent writes made one: how piecewise a console took them does not
show -/
def joinWrites (calls : List Call) : List Call := calls.foldr joinWrite []

end Call

variable {σ : Type}

/-- `refuses` tells in which states a write is refused -/
def Console.traced (console : Console σ) (refuses : σ → Bool) : Console (σ × List Call) where
  write bs s :=
    let (w, s') := console.write bs s.1
    (w, s', Call.ofWrite (refuses s.1) bs w :: s.2)
  flush s :=
    let (e, s') := console.flush s.1
    (e, s', .flush :: s.2)
  patient := patient_of_part Prod.fst console.patient fun _ _ => rfl

def Runner.traced (shell : Runner σ) : Runner (σ × List Call) where
  name := shell.name
  execute line s :=
    let (r, s') := shell.execute line s.1
    (r, s', .execute line :: s.2)

def Surroundings.traced (around : Surroundings σ) (refuses : σ → Bool) :
    Surroundings (σ × List Call) where
  currentDir s := around.currentDir s.1
  console := around.console.traced refuses
  shell := around.shell.traced

end JarLauncher
