import JarLauncher.Shell.Job

/-! Running the commands of a text, line by line: each line is read when the ones before it have
been run. A text is given as a whole, or comes from a file piece by piece. -/

namespace JarLauncher.Shell.Script

open Unix

/-- what was read of a text -/
inductive Step where
  | over
  /-- commands, if the line had any -/
  | line (c : Option Command)
  /-- more of the text is needed -/
  | more

/-- read the next line of a text -/
def next (s : Source) : Sh (Step × Source) := do
  let m ← get
  let s := { s with aliases := m.aliases, documents := m.documents, innerLine := m.line }
  let note (s : Source) : Sh Unit := modify fun m =>
    { m with documents := s.documents, readLine := s.line, heldEnd := s.isHeld }
  match Read.line.run s with
  | .ok none s' =>
    note s'
    return (.over, s')
  | .ok (some c) s' =>
    note s'
    return (.line c, s')
  | .error .unfinished _ => return (.more, s)
  | .error (.mistake line message) s' =>
    note s'
    modify fun m => { m with complaintLine := line }
    Sh.fail [text message]

variable (run : Runner)

/-- run a line, after which others may come; its status if it has one -/
def runLine (tested : Bool) (c : Option Command) (before : Nat) : Sh Nat := do
  match c with
  | none => return before
  | some c =>
    run ⟨false, tested⟩ c
    return (← get).status

/-- run the lines of a text; the answer is the status of the last one -/
def evaluateFrom (tested : Bool) : Nat → Source → Nat → Sh Nat
  | 0, _, status => return status
  | fuel + 1, s, status => do
    match ← next s with
    | (.line c, s) =>
      let status ← runLine run tested c status
      if (← get).skip.isSome then return status
      evaluateFrom tested fuel s status
    | _ => return status

/-- how many texts a shell has room for at once -/
def maxTexts : Nat := 4000

/-- run `body`, which runs a text, and read on as before afterwards -/
def reading {α : Type} (body : Sh α) : Sh α := do
  let m ← get
  if maxTexts ≤ m.texts then Sh.overflow
  set { m with texts := m.texts + 1 }
  let r ← Sh.capture body
  modify fun now => { now with readLine := m.readLine, texts := m.texts }
  Sh.resume r

/-- run the commands of a text -/
def evaluate (tested : Bool) (bs : Bytes) : Sh Nat :=
  reading (evaluateFrom run tested Act.patience (Source.ofText bs true 1) 0)

/-- how much of a file is read at once -/
def pieceSize : Nat := 8191

/-- The next piece of a file; none at its end, or if it cannot be read. What waits to be written is
written first. -/
def readPiece (fd : Nat) : Nat → Sh Bytes
  | 0 => return []
  | fuel + 1 => do
    let _ ← Sh.flush
    match ← Sh.act (Act.read fd pieceSize) with
    | .ok piece => return piece.toList.filter (· ≠ 0)
    | .error e =>
      if e ≠ Errno.interrupted then return []
      Sh.noticeSignals
      Sh.dieInterrupted
      readPiece fd fuel

/-- what was read is shown if that was asked for -/
def showRead (before after : Source) : Sh Unit := do
  if ← Sh.hasOption 'v' then
    let size := before.rest.length - after.rest.length
    let _ ← Sh.act (Act.put 2 (before.rest.take size))

/-- run the lines of a file; the answer is the status of the last one -/
def runFileFrom (fd : Nat) : Nat → Source → Nat → Sh Nat
  | 0, _, status => return status
  | fuel + 1, s, status => do
    match ← next s with
    | (.over, s') =>
      showRead s s'
      return status
    | (.more, _) =>
      match ← readPiece fd Act.patience with
      | [] => runFileFrom fd fuel { s with isWhole := true } status
      | piece => runFileFrom fd fuel { s with rest := s.rest ++ piece } status
    | (.line c, s') =>
      showRead s s'
      let status ← runLine run false c status
      match (← get).skip with
      | none => runFileFrom fd fuel s' status
      | some (.return _) =>
        modify fun m => { m with skip := none }
        return status
      | some _ => return status

def runFile (fd : Nat) : Sh Nat := do
  modify fun m => { m with readLine := 1 }
  runFileFrom run fd Act.patience (Source.ofText [] false 1) 0

/-- carry out the actions on the signals that came -/
def runTraps : Sh Unit := do
  Sh.noticeSignals
  let m ← get
  if m.caught.isEmpty then return
  Sh.dieInterrupted
  let status := m.keptStatus.getD m.status
  modify fun m => { m with keptStatus := some status }
  (List.range 65).forM fun s => do
    let m ← get
    if m.caught.contains s && m.skip.isNone then
      modify fun m => { m with caught := m.caught.filter (· ≠ s) }
      match m.traps.lookup s with
      | none => pure ()
      | some action =>
        let _ ← evaluate run false action
        if (← get).skip ≠ some (.return true) then Sh.setStatus status
  let kept := m.keptStatus
  modify fun m => { m with keptStatus := kept }

/-- forget what was under way when a shell ends by itself -/
def reset (byExit : Bool) : Sh Unit := modify fun m =>
  { m with
    status :=
      if byExit || m.skip = some (.return false) then m.keptStatus.getD m.status else m.status
    keptStatus := none
    skip := none
    loops := 0
    inTrace := false }

/-- The end of a shell, after what it did stopped as `r` says: its last action is carried out. The
answer is its status. -/
def conclude (r : Except Stop Unit) : Sh Nat := do
  match r with
  | .ok _ => pure ()
  | .error stop => reset (stop = .exit)
  let m ← get
  set { m with keptStatus := some m.status }
  match m.traps.lookup 0 with
  | none => modify fun m => { m with skip := some (.return false) }
  | some action =>
    modify fun m => { m with traps := m.traps.filter (·.1 ≠ 0), skip := none }
    match ← Sh.capture (evaluate run false action) with
    | .ok _ =>
      modify fun m => { m with skip := some (.return false) }
    | .error stop => reset (stop = .exit)
  reset false
  let _ ← Sh.flush
  return (← get).status

end JarLauncher.Shell.Script
