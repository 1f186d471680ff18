import JarLauncher.Shell.Expansion

/-! Redirections. What they replace is kept under high numbers and put back when the command that
they belong to is done. -/

namespace JarLauncher.Shell.Redirection

open Unix

/-- a redirection whose word was expanded -/
inductive Target where
  | open (fd : Nat) (mode : OpenMode) (path : Bytes)
  /-- the open file of another number; none if the number is to be closed -/
  | duplicate (fd : Nat) (source : Option Nat)
  | document (fd : Nat) (number : Nat) (plain : Bool)

def Target.fd : Target → Nat
  | .open fd .. | .duplicate fd _ | .document fd .. => fd

variable (output : Command → Sh Bytes)

def targetOf : Redirect → Sh Target
  | .open fd mode w => return .open fd mode (← Expansion.textOf output w)
  | .document fd number plain => return .document fd number plain
  | .duplicate fd w => do
    match ← Expansion.textOf output w with
    | [45] => return .duplicate fd none
    | [b] => if isDigit b then return .duplicate fd (some (b.toNat - 48)) else bad
    | _ => bad
where
  bad : Sh Target := do Sh.failReading (← get).readLine "Bad fd number"

/-- what is said of a path that cannot be opened, or of a program that is not there -/
inductive Purpose where
  | open | create | run
  deriving DecidableEq

def reason (p : Purpose) (e : Int) : String :=
  if e = Errno.noEntry ∨ e = Errno.notDirectory then
    match p with
    | .open => "No such file"
    | .create => "Directory nonexistent"
    | .run => "not found"
  else Errno.text e

def cannotOpen {α : Type} (path : Bytes) (e : Int) : Sh α :=
  Sh.fail [text "cannot open ", path, text ": ", text (reason .open e)]

def cannotCreate {α : Type} (path : Bytes) (e : Int) : Sh α :=
  Sh.fail [text "cannot create ", path, text ": ", text (reason .create e)]

/-- how a file is opened for a redirection; files that are there are not overwritten if `keeping` -/
def access (keeping : Bool) (present : Bool) : OpenMode → Access
  | .read => .read
  | .append => .append
  | .readWrite => .readWrite
  | .force => .write
  | .write =>
    if !keeping then .write
    else if present then { readable := false, writable := true }
    else { Access.write with fresh := true }

def openFile (mode : OpenMode) (path : Bytes) : Sh Nat := do
  let keeping ← Sh.hasOption 'C'
  let found ← Sh.act (Act.ask fun p s => (s.find p path).toOption.map fun n => s.tree.content n)
  if mode = .write ∧ keeping ∧ found.any Content.isFile then
    cannotCreate path Errno.alreadyExists
  match ← Sh.act (Act.openPath path (access keeping found.isSome mode)) with
  | .ok fd => return fd
  | .error e =>
    let creates := mode ≠ .read ∧ !(mode = .write ∧ keeping ∧ found.isSome)
    if creates then cannotCreate path e else cannotOpen path e

/-- the longest text that is put into a pipe before anyone reads it -/
def pipeSize : Nat := 4096

/-- the ends of a new pipe; the shell does not go on without it -/
def openPipe : Sh (Nat × Nat) := do
  match ← Sh.act Act.pipe with
  | .ok ends => return ends
  | .error _ => Sh.fail [text "Pipe call failed"]

/-- a descriptor that `bs` can be read from -/
def openText (bs : Bytes) : Sh Nat := do
  let (r, w) ← openPipe
  if bs.length ≤ pipeSize then
    let _ ← Sh.act (Act.put w bs)
  else
    let writer : Act Unit := do
      Act.close r
      for s in [Signal.int, Signal.quit, 1, 20] do Act.setDisposition s .ignored
      let _ ← Act.put w bs
      Act.exit 0
    let _ ← Sh.act (Act.fork (writer fun _ => .exit 0))
  Sh.act (Act.close w)
  return r

/-- Put a descriptor under a high number; none if it is not open. `low` is closed, even if there is
no high number left. -/
def lift (fd low : Nat) : Sh (Option Nat) := do
  match ← Sh.act (Act.duplicateFrom fd 10 true) with
  | .ok high =>
    Sh.act (Act.close low)
    return some high
  | .error e =>
    if e = Errno.badDescriptor then return none
    Sh.act (Act.close low)
    Sh.fail [decimal fd, text ": ", text (Errno.text e)]

/-- keep what a number stands for, unless that was done -/
def keep (fd : Nat) (isNew : Bool) : Sh Unit := do
  let m ← get
  match m.replaced with
  | [] => return
  | frame :: frames =>
    if (frame.lookup fd).isSome then return
    let place ← if isNew then pure none else lift fd fd
    modify fun m => { m with replaced := ((fd, place) :: frame) :: frames }

/-- carry out one redirection; what it replaces is kept if `keeping` -/
def apply (keeping : Bool) (t : Target) : Sh Unit := do
  let fd := t.fd
  let place (source : Nat) (isOurs : Bool) : Sh Unit := do
    if keeping then keep fd (source = fd)
    if source ≠ fd then
      if (← Sh.act (Act.duplicate source fd false)).isSome then
        Sh.fail [decimal source, text ": ", text (Errno.text Errno.badDescriptor)]
      if isOurs then Sh.act (Act.close source)
  match t with
  | .open _ mode path => place (← openFile mode path) true
  | .document _ number plain =>
    let w := (← get).documents.getD number []
    let bs ← if plain then pure w.characters else Expansion.documentOf output w
    place (← openText bs) true
  | .duplicate _ (some source) => if source ≠ fd then place source false
  | .duplicate _ none =>
    if keeping then keep fd false
    Sh.act (Act.close fd)

/-- put back what the last redirections replaced, or leave them as they are -/
def undo (forGood : Bool) : Sh Unit := do
  let m ← get
  match m.replaced with
  | [] => return
  | frame :: frames =>
    set { m with replaced := frames }
    for (fd, place) in frame do
      match place with
      | some p =>
        if !forGood then let _ ← Sh.act (Act.duplicate p fd false)
        Sh.act (Act.close p)
      | none => if !forGood then Sh.act (Act.close fd)

/-- Run `body` with redirections; it is told whether they could be made. They last if the body says
so. -/
def during (targets : List Target) (body : Bool → Sh Bool) : Sh Unit := do
  if targets.isEmpty then
    let _ ← body true
    return
  modify fun m => { m with replaced := [] :: m.replaced }
  let made ← Sh.capture (targets.forM (apply output true))
  let r ← match made with
    | .ok _ => Sh.capture (body true)
    | .error .mistake => Sh.capture (body false)
    | .error stop => pure (.error stop)
  undo (r matches .ok true)
  let _ ← Sh.resume r

end JarLauncher.Shell.Redirection
