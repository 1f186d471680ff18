import JarLauncher.Launch

/-! A journal of console output and executed lines. Octets written to it wait until their line ends;
each ended line becomes an entry, read as text. -/

namespace JarLauncher

inductive Journal.Entry where
  /-- a line written to the console, without its newline -/
  | output (line : String)
  | executed (line : Bytes)
  deriving DecidableEq

structure Journal where
  entries : List Journal.Entry
  /-- what was written after the last newline -/
  pending : Bytes
  deriving DecidableEq

namespace Journal

def empty : Journal := ⟨[], []⟩

def newline : UInt8 := 10

def consLine (b : UInt8) : List Bytes × Bytes → List Bytes × Bytes
  | (ended, rest) =>
    if b = newline then ([] :: ended, rest)
    else match ended with
      | line :: more => ((b :: line) :: more, rest)
      | [] => ([], b :: rest)

/-- the ended lines of `bs` without their newlines, and what follows the last newline -/
def lines (bs : Bytes) : List Bytes × Bytes := bs.foldr consLine ([], [])

def write (bs : Bytes) (j : Journal) : Journal :=
  let (ended, rest) := lines (j.pending ++ bs)
  ⟨j.entries ++ ended.map fun line => .output (Utf8.lossy line), rest⟩

def record (line : Bytes) (j : Journal) : Journal :=
  { j with entries := j.entries ++ [.executed line] }

def Entry.output? : Entry → Option String
  | output line => some line
  | executed _ => none

def Entry.executed? : Entry → Option Bytes
  | output _ => none
  | executed line => some line

def outputLines (j : Journal) : List String := j.entries.filterMap Entry.output?

def executedLines (j : Journal) : List Bytes := j.entries.filterMap Entry.executed?

/-- a journal as a console: it takes everything and flushes nothing -/
def console : Console Journal := Console.accepting write

def closedOutput : IoError := .custom .brokenPipe "stdout closed"

/-- a console that no one reads -/
def closedConsole {σ : Type} : Console σ := Console.failing closedOutput rfl

/-- A shell that records lines instead of running them, on any state that a line can be recorded
on. It answers a fixed exit code, or refuses to start. -/
def recorder {σ : Type} (record : Bytes → σ → σ) (exitCode : Option Int) (refuses : Bool) :
    Runner σ where
  name := "recording-shell"
  execute line s :=
    let answer :=
      if refuses then .error (.shellSpawn "recording-shell" "spawn refused")
      else .ok ⟨exitCode⟩
    ((answer, []), record line s)

def recordingShell (exitCode : Option Int) (refuses : Bool) : Runner Journal :=
  recorder record exitCode refuses

/-- a directory that is gone -/
def missingDir : LaunchError := .workingDirectory "No such file or directory"

/-- one launch on a journal: whether it shows itself there, what it finds, and how its shell
answers -/
structure Trial where
  closed : Bool
  /-- without a directory the lookup fails -/
  dir : Option Bytes
  profile : Profile
  exitCode : Option Int
  refuses : Bool

namespace Trial

/-- what a launch needs, on any state that takes octets and on which lines can be recorded -/
def surroundings {σ : Type} (t : Trial) (write record : Bytes → σ → σ) : Surroundings σ where
  currentDir _ := match t.dir with
    | some d => .ok d
    | none => .error missingDir
  console := if t.closed then closedConsole else Console.accepting write
  shell := recorder record t.exitCode t.refuses

def around (t : Trial) : Surroundings Journal := t.surroundings write record

end Trial

end Journal
end JarLauncher
