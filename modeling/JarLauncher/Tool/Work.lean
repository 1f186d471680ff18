import JarLauncher.Tool.Quoting
import JarLauncher.Unix.Exec

/-! A tool at work: a small program of the system. It complains under the name it was started by,
its output gathers until there is much of it or the tool ends, and a failed write is found then. -/

namespace JarLauncher.Tool

open Unix
open Shell (text)

/-- what a tool knows of itself -/
structure Desk where
  name : Bytes
  env : List (Bytes × Bytes)
  /-- output that is not yet written -/
  output : ByteArray
  /-- the status that it ends with as things stand -/
  status : Nat
  /-- the status of a failure -/
  failure : Nat
  /-- what it says when its output is lost, and the status that it ends with then -/
  loss : String × Nat
  /-- what was read of standard input and holds answers yet to come -/
  answers : ByteArray := ByteArray.empty

/-- work that may end the tool with a status -/
abbrev Work := ExceptT Nat (StateT Desk Act)

def reason (e : Int) : Bytes := text (Errno.text e)

namespace Work

def act {α : Type} (a : Act α) : Work α := liftM a

/-- how much output is written at once -/
def block : Nat := 4096

def say (words : List Bytes) : Work Unit := act (Act.complain words.flatten)

def failed : Work Unit := modify fun d => { d with status := d.failure }

/-- write what has gathered up to an octet -/
def write (count : Nat) : Work Unit := do
  let d ← get
  let piece := d.output.extract 0 count
  set { d with output := d.output.extract count d.output.size }
  if let some e ← act (Act.writeAll 1 piece) then
    modify fun d => { d with output := ByteArray.empty }
    say [d.name, text (": " ++ d.loss.1 ++ ": "), reason e, [Shell.newline]]
    throw d.loss.2

def flush : Work Unit := do write (← get).output.size

def gathered (d : Desk) : Nat := d.output.size

def put (bs : Bytes) : Work Unit := do
  modify fun d =>
    let before := d.output
    let d := { d with output := ByteArray.empty }
    { d with output := bs.foldl ByteArray.push before }
  let size ← modifyGet fun d => (gathered d, d)
  if block < size then write ((size - 1) / block * block)

def putPiece (piece : ByteArray) : Work Unit := do
  modify fun d =>
    let before := d.output
    let d := { d with output := ByteArray.empty }
    { d with output := before ++ piece }
  let size ← modifyGet fun d => (gathered d, d)
  if block < size then write ((size - 1) / block * block)

def putLine (bs : Bytes) : Work Unit := put (bs ++ [Shell.newline])

/-- a complaint; output comes before it -/
def complain (words : List Bytes) : Work Unit := do
  flush
  say ((← get).name :: text ": " :: words ++ [[Shell.newline]])

/-- a complaint about something that the tool goes on after -/
def warn (words : List Bytes) : Work Unit := do
  complain words
  failed

def fail {α : Type} (words : List Bytes) : Work α := do
  complain words
  throw (← get).failure

/-- the end of a tool that was asked for something it does not know -/
def usage {α : Type} : Work α := do
  let d ← get
  say [text "Try '", d.name, text " --help' for more information.\n"]
  throw d.failure

def misuse {α : Type} (words : List Bytes) : Work α := do
  complain words
  usage

def missingOperand {α : Type} : Work α := misuse [text "missing operand"]

def extraOperand {α : Type} (operand : Bytes) : Work α :=
  misuse [text "extra operand ", Quoting.plain operand]

/-- go round until the body answers a value -/
def loop {α σ : Type} (state : σ) (body : σ → Work (Except α σ)) : Work α := fun d rest =>
  Act.repeat_ (state, d) (fun (s, d) k =>
    body s d fun (r, d) =>
      k (match r with
        | .error status => .error (.error status, d)
        | .ok (.error a) => .error (.ok a, d)
        | .ok (.ok s) => .ok (s, d))) rest

/-- how much is read at once -/
def pieceSize : Nat := 65536

/-- all that can be read from a descriptor -/
def readAll (fd : Nat) : Work (FileTree.Answer ByteArray) :=
  loop ByteArray.empty fun done => do
    match ← act (Act.read fd pieceSize) with
    | .error e => return .error (.error e)
    | .ok piece => return if piece.isEmpty then .error (.ok done) else .ok (done ++ piece)

def dash : Bytes := [45]

/-- the descriptor of an operand, where a dash stands for standard input -/
def openOperand (operand : Bytes) : Work (FileTree.Answer Nat) :=
  if operand = dash then return .ok 0 else act (Act.openPath operand Access.read)

def closeOperand (operand : Bytes) (fd : Nat) : Work Unit :=
  if operand = dash then return else act (Act.close fd)

/-- standard input if there are no operands -/
def orInput (operands : List Bytes) : List Bytes := if operands.isEmpty then [dash] else operands

/-- the end of a tool that read standard input, which may be closed already -/
def closeInput (operands : List Bytes) (shown : String) : Work Unit := do
  if (orInput operands).contains dash then
    if (← act (Act.ask fun p s => s.opened? p 0)).isNone then
      fail [text shown, text ": ", reason Errno.badDescriptor]

/-- change the tree by an operation that may be refused -/
def change (f : FileTree → FileTree.Id → FileTree.Answer FileTree) : Work (Option Int) :=
  act (Act.change f)

/-- the node that a path names -/
def node? (path : Bytes) (followLast : Bool := true) : Work (FileTree.Answer Node) :=
  act (Act.ask fun p s => (s.find p path followLast).map s.tree.node)

end Work

/-- what a tool does with its arguments -/
abbrev Routine := List Bytes → Work Unit

/-- a tool's ending status -/
def Routine.run (routine : Routine) (failure : Nat) (i : Image) : Act Nat := do
  let ((r, d) : Except Nat Unit × Desk) ←
    (routine (i.argv.drop 1))
      { name := i.argv.headD [], env := i.env, output := ByteArray.empty, status := 0,
        failure := failure, loss := ("write error", failure) }
  let status := match r with
    | .ok () => d.status
    | .error status => status
  let ((r, _) : Except Nat Unit × Desk) ← Work.flush d
  match r with
  | .ok () => return status
  | .error status => return status

end JarLauncher.Tool
