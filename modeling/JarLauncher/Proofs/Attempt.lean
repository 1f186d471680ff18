import JarLauncher.Launch

/-! Every call that a launch makes on its console and its shell, in order, each with what came of
it. Keeping the calls beside the state changes nothing of what the launch does. -/

namespace JarLauncher

variable {σ : Type}

inductive Attempt where
  | write (offer : Bytes) (answer : Written)
  | flush (answer : Option IoError)
  | execute (line : Bytes)
  deriving DecidableEq

namespace Attempt

/-- the octets that a console took -/
def taken : Attempt → Bytes
  | write offer (.accepted n) => offer.take n
  | _ => []

def line? : Attempt → Option Bytes
  | execute line => some line
  | _ => none

def isWrite : Attempt → Bool
  | write _ _ => true
  | _ => false

/-- a write that took none of what it was offered, or that failed without an interruption -/
def isFatal : Attempt → Bool
  | write offer (.accepted n) => !offer.isEmpty && n == 0
  | write _ (.failed e) => !e.isInterrupted
  | _ => false

/-- all octets that a console took, in order -/
def accepted (calls : List Attempt) : Bytes := calls.flatMap taken

/-- the lines that a shell was given -/
def lines (calls : List Attempt) : List Bytes := calls.filterMap line?

@[simp] theorem accepted_nil : accepted [] = [] := rfl

@[simp] theorem accepted_cons (c : Attempt) (calls : List Attempt) :
    accepted (c :: calls) = c.taken ++ accepted calls := rfl

@[simp] theorem accepted_append (a b : List Attempt) :
    accepted (a ++ b) = accepted a ++ accepted b := List.flatMap_append

@[simp] theorem lines_append (a b : List Attempt) : lines (a ++ b) = lines a ++ lines b :=
  List.filterMap_append

theorem lines_eq_nil {calls : List Attempt} (h : ∀ c ∈ calls, c.isWrite) : lines calls = [] := by
  refine List.filterMap_eq_nil_iff.2 fun c hc => ?_
  have := h c hc
  cases c <;> simp_all [isWrite, line?]

end Attempt

def Console.recorded (console : Console σ) : Console (σ × List Attempt) where
  write bs s :=
    let (w, s') := console.write bs s.1
    (w, s', s.2 ++ [.write bs w])
  flush s :=
    let (e, s') := console.flush s.1
    (e, s', s.2 ++ [.flush e])
  patient := patient_of_part Prod.fst console.patient fun _ _ => rfl

theorem Console.recorded_write (console : Console σ) (before : List Attempt) {bs : Bytes} {s s' : σ}
    {w : Written} (h : console.write bs s = (w, s')) :
    console.recorded.write bs (s, before) = (w, s', before ++ [.write bs w]) := by
  simp [recorded, h]

theorem Console.recorded_flush (console : Console σ) (before : List Attempt) (s : σ) :
    console.recorded.flush (s, before) =
      ((console.flush s).1, (console.flush s).2, before ++ [.flush (console.flush s).1]) := rfl

def Runner.recorded (shell : Runner σ) : Runner (σ × List Attempt) where
  name := shell.name
  execute line s :=
    let (r, s') := shell.execute line s.1
    (r, s', s.2 ++ [.execute line])

def Surroundings.recorded (around : Surroundings σ) : Surroundings (σ × List Attempt) where
  currentDir s := around.currentDir s.1
  console := around.console.recorded
  shell := around.shell.recorded

namespace Launch

/-- the calls of a launch -/
def attempts (around : Surroundings σ) (profile : Profile) (s : σ) : List Attempt :=
  (execute around.recorded profile (s, [])).state.2

end Launch
end JarLauncher
