/-! Signals, what a process does about them, and the guard that keeps console interrupts away from a
process while it waits for a child. -/

namespace JarLauncher

abbrev Signal := Nat

namespace Signal

def names : List (Nat × String) :=
  [(1, "HUP"), (2, "INT"), (3, "QUIT"), (4, "ILL"), (5, "TRAP"), (6, "ABRT"), (7, "BUS"),
   (8, "FPE"), (9, "KILL"), (10, "USR1"), (11, "SEGV"), (12, "USR2"), (13, "PIPE"), (14, "ALRM"),
   (15, "TERM"), (16, "STKFLT"), (17, "CHLD"), (18, "CONT"), (19, "STOP"), (20, "TSTP"),
   (21, "TTIN"), (22, "TTOU"), (23, "URG"), (24, "XCPU"), (25, "XFSZ"), (26, "VTALRM"),
   (27, "PROF"), (28, "WINCH"), (29, "IO"), (30, "PWR"), (31, "SYS")]

def int : Signal := 2
def quit : Signal := 3
def arithmetic : Signal := 8
def kill : Signal := 9
def segmentation : Signal := 11
def pipe : Signal := 13
def term : Signal := 15
def child : Signal := 17
def cont : Signal := 18
def stop : Signal := 19
def fileSize : Signal := 25

/-- signals whose default is to do nothing, or to go on -/
def harmless : List Signal := [17, 18, 23, 28]

/-- signals whose default is to stop the process for a while -/
def stopping : List Signal := [19, 20, 21, 22]

end Signal

inductive Disposition where
  | default
  | ignored
  /-- a function of the process itself, known by a number -/
  | handler (id : Nat)
  deriving DecidableEq, Repr

/-- what comes of a signal that is sent to a process -/
inductive Effect where
  | nothing
  /-- a function of the process is called -/
  | caught
  | stopped
  | ended
  deriving DecidableEq, Repr

/-- what a process does about each signal -/
abbrev Dispositions := Signal → Disposition

namespace Dispositions

def initial : Dispositions := fun _ => .default

def set (d : Dispositions) (s : Signal) (a : Disposition) : Dispositions :=
  fun t => if t = s then a else d t

@[simp] theorem set_same (d : Dispositions) (s : Signal) (a : Disposition) : d.set s a s = a := by
  simp [set]

@[simp] theorem set_other (d : Dispositions) {s t : Signal} (a : Disposition) (h : t ≠ s) :
    d.set s a t = d t := by
  simp [set, h]

/-- what is left when a process becomes another program: its own functions are gone -/
def afterExec (d : Dispositions) : Dispositions := fun s =>
  match d s with
  | .handler _ => .default
  | a => a

/-- what a signal does to a process; two signals go past all that it did about them -/
def effect (d : Dispositions) (s : Signal) : Effect :=
  match if s = Signal.kill ∨ s = Signal.stop then .default else d s with
  | .ignored => .nothing
  | .handler _ => .caught
  | .default =>
    if Signal.harmless.contains s then .nothing
    else if Signal.stopping.contains s then .stopped
    else .ended

end Dispositions

/-- Where what a process does about signals is kept. Setting it for one signal answers what was done
about that signal before. -/
structure SignalTable (τ : Type) where
  dispositions : τ → Dispositions
  act : Signal → Disposition → τ → Disposition × τ

/-- a table that holds the dispositions and nothing else -/
def SignalTable.own : SignalTable Dispositions where
  dispositions := id
  act s a d := (d s, d.set s a)

/-- what was done about the console interrupts before they were ignored, in the order of ignoring -/
structure Guard where
  saved : List (Signal × Disposition)
  deriving DecidableEq

namespace Guard

/-- the signals that a console sends on an interrupt -/
def interrupts : List Signal := [.int, .quit]

variable {τ : Type} (table : SignalTable τ)

/-- ignore one signal more -/
def ignore (g : Guard × τ) (s : Signal) : Guard × τ :=
  let (previous, t) := table.act s .ignored g.2
  (⟨g.1.saved ++ [(s, previous)]⟩, t)

/-- ignore the interrupts and keep what was done about them -/
def engage (t : τ) : Guard × τ := interrupts.foldl (ignore table) (⟨[]⟩, t)

/-- undo the ignoring, the last signal first -/
def restore (g : Guard) (t : τ) : τ := g.saved.reverse.foldl (fun t (s, a) => (table.act s a t).2) t

/-- undo the ignoring in a child, the first signal first -/
def restoreInChild (g : Guard) (d : Dispositions) : Dispositions :=
  g.saved.foldl (fun d (s, a) => d.set s a) d

end Guard
end JarLauncher
