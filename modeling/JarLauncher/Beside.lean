import JarLauncher.Launch

/-! Surroundings whose console and shell know nothing of each other: each works on its half of a
pair. -/

namespace JarLauncher

variable {σ τ : Type}

def Console.onFirst (console : Console σ) : Console (σ × τ) where
  write bs s :=
    let (w, s') := console.write bs s.1
    (w, s', s.2)
  flush s :=
    let (e, s') := console.flush s.1
    (e, s', s.2)
  patient := patient_of_part Prod.fst console.patient fun _ _ => rfl

def Runner.onSecond (shell : Runner τ) : Runner (σ × τ) where
  name := shell.name
  execute line s :=
    let (r, s') := shell.execute line s.2
    (r, s.1, s')

/-- a directory that was looked up, a console and a shell -/
def Surroundings.beside (found : Except LaunchError Bytes) (console : Console σ)
    (shell : Runner τ) : Surroundings (σ × τ) :=
  ⟨fun _ => found, console.onFirst, shell.onSecond⟩

end JarLauncher
