import JarLauncher.Journal

/-! A session with several journals. The entries of a journal and the octets that wait on it are two
cells of a store, and a handle names the two. A clone is one more handle on the same two cells; a
fresh journal has two cells of its own. -/

namespace JarLauncher

/-- the cells that a journal is kept in -/
structure Session.Handle where
  entries : Nat
  pending : Nat
  deriving DecidableEq

structure Session where
  entries : List (List Journal.Entry)
  pending : List Bytes
  handles : List Session.Handle
  deriving DecidableEq

namespace Session

inductive Step where
  | create
  | clone (handle : Nat)
  | write (handle : Nat) (data : Bytes)
  | flush (handle : Nat)
  | record (handle : Nat) (line : Bytes)
  /-- a launch that records its line -/
  | launch (handle : Nat) (trial : Journal.Trial)

inductive Result where
  /-- a new handle -/
  | handle (index : Nat)
  /-- how many octets were taken -/
  | count (n : Nat)
  | flushed
  | recorded
  | launched (answer : Except LaunchError Report)

def start : Session := ⟨[[]], [[]], [⟨0, 0⟩]⟩

def handle (s : Session) (h : Nat) : Handle := s.handles.getD h ⟨0, 0⟩

def entriesOf (s : Session) (h : Nat) : List Journal.Entry :=
  s.entries.getD (s.handle h).entries []

def pendingOf (s : Session) (h : Nat) : Bytes := s.pending.getD (s.handle h).pending []

/-- the journal that a handle shows -/
def journal (s : Session) (h : Nat) : Journal := ⟨s.entriesOf h, s.pendingOf h⟩

def append (h : Nat) (new : List Journal.Entry) (s : Session) : Session :=
  { s with entries := s.entries.modify (s.handle h).entries (· ++ new) }

def keep (h : Nat) (rest : Bytes) (s : Session) : Session :=
  { s with pending := s.pending.set (s.handle h).pending rest }

/-- Write through a handle. Only the lines that end reach the cell of the entries. -/
def write (h : Nat) (bs : Bytes) (s : Session) : Session :=
  let (ended, rest) := Journal.lines (s.pendingOf h ++ bs)
  (s.keep h rest).append h (ended.map fun line => .output (Utf8.lossy line))

/-- record a line through a handle, whatever waits in the other cell -/
def record (h : Nat) (line : Bytes) (s : Session) : Session := s.append h [.executed line]

/-- the result of a step, the handle whose journal it shows, and the session after it -/
def step (s : Session) : Step → Result × Nat × Session
  | .create =>
    let h := s.handles.length
    let cells : Handle := ⟨s.entries.length, s.pending.length⟩
    (.handle h, h, ⟨s.entries ++ [[]], s.pending ++ [[]], s.handles ++ [cells]⟩)
  | .clone j =>
    let h := s.handles.length
    (.handle h, h, { s with handles := s.handles ++ [s.handle j] })
  | .write j data => (.count data.length, j, s.write j data)
  | .flush j => (.flushed, j, s)
  | .record j line => (.recorded, j, s.record j line)
  | .launch j trial =>
    let run := Launch.execute (trial.surroundings (write j) (record j)) trial.profile s
    (.launched run.result, j, run.state)

/-- the results of a series of steps, each with the journal it shows -/
def run : Session → List Step → List (Result × Journal) × Session
  | s, [] => ([], s)
  | s, x :: xs =>
    let (r, h, s') := s.step x
    let (rest, last) := s'.run xs
    ((r, s'.journal h) :: rest, last)

end Session
end JarLauncher
