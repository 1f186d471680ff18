import JarLauncher.Unix.System

/-! Reading and writing. A call answers, or it answers nothing: then its process waits and makes it
again when something has happened. -/

namespace JarLauncher.Unix

/-- how a file is opened -/
structure Access where
  readable : Bool
  writable : Bool
  /-- everything is written at the end -/
  atEnd : Bool := false
  truncates : Bool := false
  creates : Bool := false
  /-- it must not be there already -/
  fresh : Bool := false

namespace Access

def read : Access := { readable := true, writable := false }

/-- for writing, from the start and with nothing of the old content -/
def write : Access := { readable := false, writable := true, truncates := true, creates := true }

def append : Access := { readable := false, writable := true, atEnd := true, creates := true }

def readWrite : Access := { readable := true, writable := true, creates := true }

end Access

namespace System

/-- the octets that a pipe holds at most -/
def pipeRoom : Nat := 65536

/-- the most octets that go into a pipe at once or not at all -/
def pipeAtom : Nat := 4096

/-- a new file with these permissions, made by a process -/
def newFile (s : System) (p : Pid) (path : Bytes) (mode : Nat) :
    FileTree.Answer (FileTree.Id × System) := do
  let place ← s.tree.placeThrough FileTree.maxLinks (s.cwd p) path
  if place.slashed then throw Errno.isDirectory
  let (n, t) ← s.tree.create place (.file ByteArray.empty) (s.permitted p mode)
  return (n, s.withTree t)

/-- a path names a pipe itself, and not a descriptor that is open on one -/
def isNamedPipe (s : System) (p : Pid) (path : Bytes) : Bool :=
  match (s.tree.find (s.cwd p) path).map s.tree.content with
  | .ok (.pipe ..) => true
  | _ => false

/-- a pipe with a name lets nobody in before there is somebody at its other end -/
def isLonely (s : System) (n : FileTree.Id) (a : Access) : Bool :=
  match s.tree.content n with
  | .pipe .. => (!a.writable && !s.hasWriter n) || (!a.readable && !s.hasReader n)
  | _ => false

/-- open what is there -/
def openNode (s : System) (n : FileTree.Id) (a : Access) : FileTree.Answer (Nat × System) :=
  let content := s.tree.content n
  if content.isDir && a.writable then .error Errno.isDirectory
  else if content matches .device .terminal then .error Errno.noDevice
  else
    let s := if a.truncates && content.isFile then
        s.withTree (s.tree.set n (.file ByteArray.empty))
      else s
    .ok (s.addOpened ⟨n, 0, a.readable, a.writable, a.atEnd⟩)

/-- open a path -/
def openPath (s : System) (p : Pid) (path : Bytes) (a : Access) (mode : Nat) :
    FileTree.Answer (Nat × System) :=
  match s.find p path with
  | .ok n =>
    if a.fresh then .error Errno.alreadyExists
    else s.openNode n a
  | .error e =>
    if e = Errno.noEntry ∧ a.creates then do
      let (n, s) ← s.newFile p path mode
      s.openNode n { a with truncates := false }
    else .error e

/-- a new pipe: the open files of its two ends -/
def newPipe (s : System) : Nat × Nat × System :=
  let (n, t) := s.tree.add (.pipe ByteArray.empty 0) FileTree.fileMode
  let (r, s) := (s.withTree t).addOpened ⟨n, 0, true, false, false⟩
  let (w, s) := s.addOpened ⟨n, 0, false, true, false⟩
  (r, w, s)

/-- up to `count` octets, none at the end of a file; nothing yet from an empty pipe with writers -/
def read (s : System) (p : Pid) (fd count : Nat) : Option (FileTree.Answer ByteArray) × System :=
  match s.opened? p fd with
  | none => (some (.error Errno.badDescriptor), s)
  | some (i, o) =>
    if !o.readable then (some (.error Errno.badDescriptor), s)
    else match s.tree.content o.node with
      | .file data =>
        let piece := data.extract o.offset (o.offset + count)
        (some (.ok piece), s.setOffset i (o.offset + piece.size))
      | .pipe data start =>
        if start < data.size then
          let piece := data.extract start (start + count)
          let content : Content :=
            if start + piece.size < data.size then .pipe data (start + piece.size)
            else .pipe ByteArray.empty 0
          (some (.ok piece), (s.withTree (s.tree.set o.node content)).notice)
        else if s.hasWriter o.node then (none, s)
        else (some (.ok ByteArray.empty), s)
      | .device .null => (some (.ok ByteArray.empty), s)
      | .device _ => (some (.ok (FileTree.zeros count)), s)
      | .dir .. => (some (.error Errno.isDirectory), s)
      | _ => (some (.error Errno.invalid), s)

inductive WriteResult where
  /-- the first `count` octets were taken -/
  | took (count : Nat)
  | failed (errno : Int)
  /-- nobody reads the pipe -/
  | broken
  /-- the file may not grow -/
  | tooLarge
  deriving DecidableEq

/-- write octets, as many as there is room for; nothing yet if a pipe has none -/
def write (s : System) (p : Pid) (fd : Nat) (piece : ByteArray) : Option WriteResult × System :=
  match s.opened? p fd with
  | none => (some (.failed Errno.badDescriptor), s)
  | some (i, o) =>
    if !o.writable then (some (.failed Errno.badDescriptor), s)
    else match s.tree.content o.node with
      | .file data =>
        let offset := if o.append then data.size else o.offset
        let limit := (s.limits p).fileSize
        if piece.size = 0 then (some (.took 0), s)
        else if Limits.reaches offset limit then (some .tooLarge, s)
        else
          let part := match limit with
            | none => piece
            | some limit => piece.extract 0 (limit - offset)
          let s := s.withTree (s.tree.overwrite o.node offset part)
          (some (.took part.size), s.setOffset i (offset + part.size))
      | .pipe data start =>
        if piece.size = 0 then (some (.took 0), s)
        else if !s.hasReader o.node then (some .broken, s)
        else
          let room := pipeRoom - (data.size - start)
          if room = 0 || (piece.size ≤ pipeAtom && room < piece.size) then (none, s)
          else
            let part := piece.extract 0 room
            let held := if start = 0 then data else data.extract start data.size
            (some (.took part.size),
              (s.withTree (s.tree.set o.node (.pipe (held ++ part) 0))).notice)
      | .device .full =>
        (some (if piece.size = 0 then .took 0 else .failed Errno.noSpace), s)
      | .device _ => (some (.took piece.size), s)
      | _ => (some (.failed Errno.invalid), s)

/-- put the offset of a file somewhere; only files have one -/
def seek (s : System) (p : Pid) (fd offset : Nat) : Option Int × System :=
  match s.opened? p fd with
  | none => (some Errno.badDescriptor, s)
  | some (i, o) =>
    match s.tree.content o.node with
    | .file _ => (none, s.setOffset i offset)
    | .device _ => (none, s)
    | _ => (some Errno.illegalSeek, s)

end System
end JarLauncher.Unix
