import JarLauncher.Interpreter

/-! One line as it is run, step by step, with interrupts from the console between any two steps. The
launcher ignores the interrupts one by one, starts a child, waits until it is gone and undoes the
ignoring one by one. The child undoes it for itself and becomes the interpreter. An interrupt comes
to both, if both are there. -/

namespace JarLauncher.Interleaving

/-- how far the launcher is -/
inductive Stage where
  | ignoring (guard : Guard) (left : List Signal)
  | waiting (guard : Guard)
  /-- there is no child any more; what is left to undo -/
  | restoring (left : List (Signal × Disposition)) (spawned : Spawned)
  | returned (answer : Except LaunchError Outcome)
  /-- a signal ended it -/
  | ended (signal : Signal)

def Stage.isRunning : Stage → Bool
  | returned _ | ended _ => false
  | _ => true

/-- how far the child is -/
inductive Child where
  /-- it is still a copy of the launcher; what is left to undo -/
  | restoring (left : List (Signal × Disposition))
  | interpreter
  /-- the launcher has not yet heard of its end -/
  | gone (spawned : Spawned)

structure State where
  stage : Stage
  /-- what the launcher does about signals -/
  dispositions : Dispositions
  /-- the child with what it does about signals, until the launcher has heard of its end -/
  child : Option (Child × Dispositions)

/-- a signal that the console sends -/
abbrev Interrupt := { s : Signal // s = .int ∨ s = .quit }

inductive Event where
  /-- the launcher's next step -/
  | launcher
  /-- the child's next step on its way to become the interpreter -/
  | child
  /-- no child can be started, or the child cannot become the interpreter -/
  | refuse (cause : IoError)
  /-- the interpreter is done -/
  | finish (code : Option Int)
  | deliver (interrupt : Interrupt)

def start (entry : Dispositions) : State := ⟨.ignoring ⟨[]⟩ Guard.interrupts, entry, none⟩

def advance (x : State) : Option State :=
  match x.stage with
  | .ignoring guard (s :: left) =>
    let (guard, d) := Guard.ignore .own (guard, x.dispositions) s
    some { x with stage := .ignoring guard left, dispositions := d }
  | .ignoring guard [] =>
    some { x with stage := .waiting guard, child := some (.restoring guard.saved, x.dispositions) }
  | .waiting guard =>
    match x.child with
    | some (.gone spawned, _) =>
      some { x with stage := .restoring guard.saved.reverse spawned, child := none }
    | _ => none
  | .restoring ((s, a) :: left) spawned =>
    some { x with stage := .restoring left spawned, dispositions := x.dispositions.set s a }
  | .restoring [] spawned => some { x with stage := .returned (Interpreter.outcome spawned) }
  | .returned _ | .ended _ => none

def Child.advance : Child × Dispositions → Option (Child × Dispositions)
  | (restoring ((s, a) :: left), d) => some (restoring left, d.set s a)
  | (restoring [], d) => some (interpreter, d.afterExec)
  | _ => none

def refuse (cause : IoError) (x : State) : Option State :=
  match x.stage, x.child with
  | .ignoring guard [], none => some { x with stage := .restoring guard.saved.reverse (.refused cause) }
  | _, some (.restoring [], d) => some { x with child := some (.gone (.refused cause), d) }
  | _, _ => none

def finish (code : Option Int) (x : State) : Option State :=
  match x.child with
  | some (.interpreter, d) => some { x with child := some (.gone (.ended code), d) }
  | _ => none

/-- a child after a signal was sent to it -/
def Child.hit (s : Signal) : Child × Dispositions → Child × Dispositions
  | (gone spawned, d) => (gone spawned, d)
  | (c, d) => if d.effect s = .ended then (gone (.ended none), d) else (c, d)

def deliver (s : Signal) (x : State) : State where
  stage := if x.stage.isRunning ∧ x.dispositions.effect s = .ended then .ended s else x.stage
  dispositions := x.dispositions
  child := x.child.map (Child.hit s)

/-- what an event makes of a state in which it can happen -/
def step (x : State) : Event → Option State
  | .launcher => advance x
  | .child => (x.child.bind Child.advance).map fun c => { x with child := some c }
  | .refuse cause => refuse cause x
  | .finish code => finish code x
  | .deliver i => some (deliver i x)

def run (x : State) (events : List Event) : Option State := events.foldlM step x

end JarLauncher.Interleaving
