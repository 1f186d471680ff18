import JarLauncher.Unix.Stream

/-! What a process does from some moment on, as data: it ends, becomes another program, makes a copy
of itself, or makes a call on the system. An act is a piece of it that ends in a value, and is given
what comes afterwards. -/

namespace JarLauncher.Unix

/-- a program with what it is started with -/
structure Image where
  program : String
  argv : List Bytes
  env : List (Bytes × Bytes)

inductive Activity where
  | exit (status : Nat)
  | become (image : Image)
  /-- the copy does `child`; the process itself goes on with the number of the copy -/
  | fork (child : Activity) (rest : Pid → Activity)
  /-- A call that takes `cost` microseconds. It may answer nothing; then the process waits. -/
  | call (cost : Nat) (run : Pid → System → Option Activity × System)

def Act (α : Type) : Type := (α → Activity) → Activity

instance : Monad Act where
  pure a := fun rest => rest a
  bind act f := fun rest => act fun a => f a rest

namespace Act

variable {α β : Type}

/-- how long a call takes, in microseconds -/
def callCost : Nat := 1

/-- a call that may have to wait -/
def attempt (f : Pid → System → Option α × System) : Act α := fun rest =>
  .call callCost fun p s =>
    let (answer, s) := f p s
    (answer.map rest, s)

def call (f : Pid → System → α × System) : Act α := fun rest =>
  .call callCost fun p s =>
    let (answer, s) := f p s
    (some (rest answer), s)

def ask (f : Pid → System → α) : Act α := call fun p s => (f p s, s)

def modify (f : Pid → System → System) : Act Unit := call fun p s => ((), f p s)

def exit (status : Nat) : Act α := fun _ => .exit status

def pid : Act Pid := ask fun p _ => p

def tree : Act FileTree := ask fun _ s => s.tree

def cwd : Act FileTree.Id := ask fun p s => s.cwd p

def hasCaught (p : Pid) (s : System) : Bool := (s.process? p).any fun x => !x.caught.isEmpty

/-- Read up to `count` octets. Waiting ends when a signal comes that the process looks at. -/
def read (fd count : Nat) : Act (FileTree.Answer ByteArray) := attempt fun p s =>
  match s.read p fd count with
  | (none, s) => (if hasCaught p s then some (.error Errno.interrupted) else none, s)
  | answer => answer

/-- one write; a broken pipe, or a file that may not grow, ends a process that does nothing about
it -/
def writeSome (fd : Nat) (piece : ByteArray) : Act (FileTree.Answer Nat) := attempt fun p s =>
  match s.write p fd piece with
  | (none, s) => (none, s)
  | (some (.took n), s) => (some (.ok n), s)
  | (some (.failed e), s) => (some (.error e), s)
  | (some .broken, s) => (some (.error Errno.brokenPipe), s.send p .pipe)
  | (some .tooLarge, s) => (some (.error Errno.tooLarge), s.send p .fileSize)

/-- Give an open file another size, longer with zeros: the size that it cannot have, and why. -/
def resize (fd : Nat) (goal : Nat → Nat) : Act (Option (Nat × Int)) := call fun p s =>
  match s.opened? p fd with
  | none => (some (goal 0, Errno.badDescriptor), s)
  | some (_, o) =>
    match s.tree.content o.node with
    | .file data =>
      let size := goal data.size
      let isTooLarge : Bool := data.size < size && match (s.limits p).fileSize with
        | none => false
        | some limit => limit < size
      if isTooLarge then (some (size, Errno.tooLarge), s.send p .fileSize)
      else
        let more := FileTree.zeros (size - data.size)
        (none, s.withTree (s.tree.set o.node (.file (data.extract 0 size ++ more))))
    | _ => (some (goal 0, Errno.invalid), s)

/-- Write all of a piece, of which `fuel` bounds the parts: how much was written, `done` before, and
why no more. -/
def writeFrom (fd : Nat) : Nat → Nat → ByteArray → Act (Nat × Option Int)
  | 0, done, _ => return (done, none)
  | fuel + 1, done, piece => do
    match ← writeSome fd piece with
    | .error e => return (done, some e)
    | .ok n =>
      if piece.size ≤ n then return (done + n, none)
      else writeFrom fd fuel (done + n) (piece.extract n piece.size)

def writeCounted (fd : Nat) (piece : ByteArray) : Act (Nat × Option Int) :=
  if piece.isEmpty then return (0, none) else writeFrom fd (piece.size + 1) 0 piece

def writeAll (fd : Nat) (piece : ByteArray) : Act (Option Int) := do
  return (← writeCounted fd piece).2

/-- why nothing more can be written to a file where it would be written next -/
def checkRoom (fd : Nat) : Act (Option Int) := call fun p s =>
  match s.opened? p fd with
  | some (_, o) =>
    if (s.tree.content o.node).isFile && Limits.reaches o.offset (s.limits p).fileSize then
      (some Errno.tooLarge, s.send p .fileSize)
    else (none, s)
  | none => (none, s)

def octets (bs : Bytes) : ByteArray := ⟨bs.toArray⟩

def put (fd : Nat) (bs : Bytes) : Act (Option Int) := writeAll fd (octets bs)

/-- a message on standard error; nobody can be told if that fails -/
def complain (bs : Bytes) : Act Unit := do
  let _ ← put 2 bs

/-- change the tree by an operation that may be refused -/
def change (f : FileTree → FileTree.Id → FileTree.Answer FileTree) : Act (Option Int) :=
  call fun p s =>
    match f s.tree (s.cwd p) with
    | .ok t => (none, (s.withTree t).notice)
    | .error e => (some e, s)

/-- open a path under the least free number from `low` on -/
def openPath (path : Bytes) (a : Access) (low : Nat := 0) (untilExec : Bool := false)
    (mode : Nat := 0o666) : Act (FileTree.Answer Nat) := fun rest =>
  .call callCost fun p s =>
    let opened : FileTree.Answer (Nat × Nat × System) := do
      let fd ← s.freeNumber p low
      return (fd, ← s.openPath p path a mode)
    match opened with
    | .error e => (some (rest (.error e)), s)
    | .ok (fd, file, s) =>
      let isLonely (s : System) : Bool :=
        s.isNamedPipe p path && (s.opened[file]?).any fun o => s.isLonely o.node a
      let s := s.setDescriptor p fd ⟨file, untilExec⟩
      let next := rest (.ok fd)
      if isLonely s then
        (some (.call callCost fun _ s => (if isLonely s then none else some next, s)), s)
      else (some next, s)

def close (fd : Nat) : Act Unit := modify fun p s => s.close p fd

/-- put the open file of one number under another too -/
def duplicate (source goal : Nat) (untilExec : Bool) : Act (Option Int) := call fun p s =>
  match if s.forbids p goal then none else s.descriptor? p source with
  | none => (some Errno.badDescriptor, s)
  | some d => (none, s.setDescriptor p goal ⟨d.file, untilExec⟩)

/-- put the open file of a number under the least free one from `low` on too -/
def duplicateFrom (source low : Nat) (untilExec : Bool) : Act (FileTree.Answer Nat) :=
  call fun p s =>
    match s.descriptor? p source with
    | none => (.error Errno.badDescriptor, s)
    | some d =>
      if s.forbids p low then (.error Errno.invalid, s)
      else match s.freeNumber p low with
        | .error e => (.error e, s)
        | .ok fd => (.ok fd, s.setDescriptor p fd ⟨d.file, untilExec⟩)

/-- the two ends of a new pipe, under numbers of their own -/
def pipe : Act (FileTree.Answer (Nat × Nat)) := call fun p s =>
  let made : FileTree.Answer ((Nat × Nat) × System) := do
    let (r, w, s) := s.newPipe
    let readEnd ← s.freeNumber p 0
    let s := s.setDescriptor p readEnd ⟨r, false⟩
    let writeEnd ← s.freeNumber p 0
    return ((readEnd, writeEnd), s.setDescriptor p writeEnd ⟨w, false⟩)
  match made with
  | .ok (ends, s) => (.ok ends, s)
  | .error e => (.error e, s)

def fork (child : Activity) : Act Pid := fun rest => .fork child rest

/-- the signals that came for the process's own functions since this was last asked -/
def takeCaught : Act (List Signal) := call fun p s =>
  match s.process? p with
  | some x =>
    if x.caught.isEmpty then ([], s) else (x.caught, s.modify p fun x => { x with caught := [] })
  | none => ([], s)

def kill (number : Int) (sig : Signal) : Act (Option Int) := call fun p s => s.signal p number sig

def setDisposition (sig : Signal) (d : Disposition) : Act Unit := modify fun p s =>
  s.modify p fun x => { x with dispositions := x.dispositions.set sig d }

/-- What a child brings news of, as the calls that wait for it answer: none if no child is
`wanted`. Unless `block`, it answers at once. -/
inductive Heard where
  | news (n : System.News)
  | noChild
  | nothingYet
  | interrupted

/-- wait for news of the children that are wanted -/
def wait (wanted : Pid → Bool) (alsoStopped block : Bool) : Act Heard := attempt fun p s =>
  match s.news p wanted alsoStopped with
  | some (n, s) => (some (.news n), s)
  | none =>
    (if !s.hasChild p wanted then some .noChild
      else if !block then some .nothingYet
      else if hasCaught p s then some .interrupted
      else none, s)

/-- be woken after a time -/
def setAlarm (micros : Option Nat) : Act Unit := modify fun p s =>
  s.modify p fun x => { x with alarm := micros.map (s.now + ·) }

def isDue (p : Pid) (s : System) : Bool :=
  match (s.process? p).bind Process.alarm with
  | some time => time ≤ s.now
  | none => true

def sleep (micros : Nat) : Act Unit := do
  setAlarm (some micros)
  attempt fun p s => (if isDue p s then some () else none, s)
  setAlarm none

/-- how often a loop may go round -/
def patience : Nat := 1000000000000

/-- go round until the body answers a value; `fuel` bounds how often -/
def repeatFrom {σ : Type} (body : σ → Act (Except α σ)) : Nat → σ → Act α
  | 0, _ => exit 1
  | fuel + 1, state => do
    match ← body state with
    | .error a => return a
    | .ok state => repeatFrom body fuel state

def repeat_ {σ : Type} (state : σ) (body : σ → Act (Except α σ)) : Act α :=
  repeatFrom body patience state

end Act
end JarLauncher.Unix
