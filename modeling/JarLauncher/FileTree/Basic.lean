import JarLauncher.FileTree.Path

/-! A tree of files. Nodes are known by number and outlive their names: a directory that was removed
can still be somebody's working directory, but nothing is found or made in it. -/

namespace JarLauncher

inductive Device where
  /-- takes everything and holds nothing -/
  | null
  /-- takes everything and holds zeros without end -/
  | zero
  /-- has no room, and holds zeros without end -/
  | full
  /-- the terminal of whoever opens it, of which there is none -/
  | terminal
  deriving DecidableEq

/-- the numbers that a device is known by -/
def Device.numbers : Device → Nat × Nat
  | null => (1, 3)
  | zero => (1, 5)
  | full => (1, 7)
  | terminal => (5, 0)

inductive Content where
  | dir (entries : List (Bytes × Nat)) (parent : Nat) (present : Bool)
  | file (data : ByteArray)
  | link (target : Bytes)
  | device (kind : Device)
  /-- what was written and not yet read: all of `data` from octet `start` on -/
  | pipe (data : ByteArray) (start : Nat)
  /-- a program of the system, known by its name -/
  | program (name : String)
  /-- what the process that asks has open under a number -/
  | descriptor (fd : Nat)

structure Node where
  content : Content
  /-- permissions -/
  mode : Nat
  /-- when the content was last changed, in ticks of the system's clock -/
  changed : Nat

structure FileTree where
  nodes : Array Node
  /-- the time, for the nodes that change -/
  now : Nat

namespace Content

def isDir : Content → Bool
  | dir .. => true
  | _ => false

def isFile : Content → Bool
  | file _ => true
  | _ => false

def isLink : Content → Bool
  | link _ => true
  | _ => false

end Content

namespace FileTree

abbrev Id := Nat

/-- an answer or an error number -/
abbrev Answer (α : Type) := Except Int α

def root : Id := 0

/-- the permissions of new directories and files, and of links -/
def dirMode : Nat := 0o755

def fileMode : Nat := 0o644

def linkMode : Nat := 0o777

def empty : FileTree := ⟨#[⟨.dir [] 0 true, dirMode, 0⟩], 0⟩

def nothing : Node := ⟨.device .null, fileMode, 0⟩

def node (t : FileTree) (n : Id) : Node := t.nodes.getD n nothing

def content (t : FileTree) (n : Id) : Content := (t.node n).content

def modify (t : FileTree) (n : Id) (f : Node → Node) : FileTree :=
  { t with nodes := t.nodes.modify n f }

/-- replace what a node holds -/
def set (t : FileTree) (n : Id) (x : Content) : FileTree :=
  t.modify n fun old => { old with content := x, changed := t.now }

def add (t : FileTree) (x : Content) (mode : Nat) : Id × FileTree :=
  (t.nodes.size, { t with nodes := t.nodes.push ⟨x, mode, t.now⟩ })

def isDir (t : FileTree) (n : Id) : Bool := (t.content n).isDir

def entries (t : FileTree) (n : Id) : List (Bytes × Id) :=
  match t.content n with
  | .dir es _ _ => es
  | _ => []

def isPresent (t : FileTree) (n : Id) : Bool :=
  match t.content n with
  | .dir _ _ p => p
  | _ => true

def parent (t : FileTree) (n : Id) : Id :=
  match t.content n with
  | .dir _ p _ => p
  | _ => root

def maxLinks : Nat := 40

/-- Follow components from a directory. A link is followed in the middle, and at the end if
`followLast`; `links` bounds how many. -/
def walk (t : FileTree) (followLast : Bool) (links : Nat) (at_ : Id) (comps : List Bytes) :
    Answer Id :=
  match comps with
  | [] => .ok at_
  | c :: rest =>
    match t.content at_ with
    | .dir es up _ =>
      if c = Path.here then t.walk followLast links at_ rest
      else if c = Path.up then t.walk followLast links up rest
      else if c.length > Path.maxName then .error Errno.nameTooLong
      else match es.lookup c with
        | none => .error Errno.noEntry
        | some n =>
          match t.content n with
          | .link target =>
            if rest = [] ∧ !followLast then .ok n
            else match links with
              | 0 => .error Errno.linkLoop
              | links + 1 =>
                t.walk followLast links (if Path.isAbsolute target then root else at_)
                  (Path.components target ++ rest)
          | _ => t.walk followLast links n rest
    | _ => .error Errno.notDirectory
termination_by (links, comps.length)

def start (cwd : Id) (path : Bytes) : Id := if Path.isAbsolute path then root else cwd

/-- the node that a path names, links followed -/
def find (t : FileTree) (cwd : Id) (path : Bytes) : Answer Id :=
  match Path.fault? path with
  | some e => .error e
  | none => t.walk true maxLinks (start cwd path) (Path.components path)

/-- the node that a path names, a link at the end not followed -/
def findLink (t : FileTree) (cwd : Id) (path : Bytes) : Answer Id :=
  match Path.fault? path with
  | some e => .error e
  | none => t.walk false maxLinks (start cwd path) (Path.components path)

structure Place where
  dir : Id
  name : Bytes
  /-- the path ended in a slash -/
  slashed : Bool

/-- the directory and the name in it that a path is about -/
def place (t : FileTree) (cwd : Id) (path : Bytes) : Answer Place :=
  match Path.fault? path with
  | some e => .error e
  | none =>
    let (comps, slashed) := Path.bare path
    match comps.getLast? with
    | none => .ok ⟨root, Path.here, slashed⟩
    | some name => do
      let dir ← t.walk true maxLinks (start cwd path) comps.dropLast
      if !t.isDir dir then throw Errno.notDirectory
      if name.length > Path.maxName then throw Errno.nameTooLong
      return ⟨dir, name, slashed⟩

def isDots (name : Bytes) : Bool := name == Path.here || name == Path.up

def child? (t : FileTree) (p : Place) : Option Id :=
  if p.name = Path.here then some p.dir
  else if p.name = Path.up then some (t.parent p.dir)
  else (t.entries p.dir).lookup p.name

/-- The place where a path would make a file: links at its end are followed even if nothing is
there. -/
def placeThrough (t : FileTree) (links : Nat) (cwd : Id) (path : Bytes) : Answer Place := do
  let p ← t.place cwd path
  match (t.child? p).map t.content with
  | some (.link target) =>
    match links with
    | 0 => throw Errno.linkLoop
    | links + 1 => if p.slashed then return p else t.placeThrough links p.dir target
  | _ => return p

def setEntries (t : FileTree) (d : Id) (f : List (Bytes × Id) → List (Bytes × Id)) : FileTree :=
  match t.content d with
  | .dir es p present => t.set d (.dir (f es) p present)
  | _ => t

def insert (t : FileTree) (d : Id) (name : Bytes) (n : Id) : FileTree :=
  t.setEntries d fun es => (es.filter fun e => e.1 ≠ name) ++ [(name, n)]

def erase (t : FileTree) (d : Id) (name : Bytes) : FileTree :=
  t.setEntries d fun es => es.filter fun e => e.1 ≠ name

/-- a directory that lost its name -/
def drop (t : FileTree) (n : Id) : FileTree :=
  match t.content n with
  | .dir _ p _ => t.set n (.dir [] p false)
  | _ => t

/-- a new node under a name that is free -/
def create (t : FileTree) (p : Place) (x : Content) (mode : Nat) : Answer (Id × FileTree) :=
  if (t.child? p).isSome then .error Errno.alreadyExists
  else if !t.isPresent p.dir then .error Errno.noEntry
  else
    let (n, t) := t.add x mode
    .ok (n, t.insert p.dir p.name n)

def mkdir (t : FileTree) (cwd : Id) (path : Bytes) (mode : Nat := dirMode) : Answer FileTree := do
  let p ← t.place cwd path
  return (← t.create p (.dir [] p.dir true) mode).2

def symlink (t : FileTree) (cwd : Id) (target path : Bytes) : Answer FileTree := do
  if let some e := Path.fault? target then throw e
  let p ← t.place cwd path
  if p.slashed && (t.child? p).isNone then throw Errno.noEntry
  return (← t.create p (.link target) linkMode).2

/-- one more name for a node, or for what it leads to -/
def hardLink (t : FileTree) (cwd : Id) (path goal : Bytes) (follow : Bool := false) :
    Answer FileTree := do
  let n ← if follow then t.find cwd path else t.findLink cwd path
  let p ← t.place cwd goal
  if (t.child? p).isSome then throw Errno.alreadyExists
  if p.slashed || !t.isPresent p.dir then throw Errno.noEntry
  if t.isDir n then throw Errno.notPermitted
  return t.insert p.dir p.name n

def rmdir (t : FileTree) (cwd : Id) (path : Bytes) : Answer FileTree := do
  let p ← t.place cwd path
  if p.name = Path.here then throw Errno.invalid
  if p.name = Path.up then throw Errno.notEmpty
  match t.child? p with
  | none => throw Errno.noEntry
  | some n =>
    if !t.isDir n then throw Errno.notDirectory
    if t.entries n ≠ [] then throw Errno.notEmpty
    return (t.erase p.dir p.name).drop n

def unlink (t : FileTree) (cwd : Id) (path : Bytes) : Answer FileTree := do
  let p ← t.place cwd path
  if isDots p.name then throw Errno.isDirectory
  match t.child? p with
  | none => throw Errno.noEntry
  | some n =>
    if t.isDir n then throw Errno.isDirectory
    if p.slashed then throw Errno.notDirectory
    return t.erase p.dir p.name

/-- how many names a node has, a directory's own and those from below counted -/
def linkCount (t : FileTree) (n : Id) : Nat :=
  match t.content n with
  | .dir entries _ _ => 2 + (entries.filter fun e => t.isDir e.2).length
  | _ => t.nodes.foldl (fun sum x => sum + match x.content with
    | .dir entries _ _ => (entries.filter fun e => e.2 = n).length
    | _ => 0) 0

/-- the directories above a node, up to the root, at most `fuel` of them -/
def ancestors (t : FileTree) : Nat → Id → List Id
  | 0, _ => []
  | fuel + 1, n => if n = root then [root] else n :: t.ancestors fuel (t.parent n)

def isWithin (t : FileTree) (n above : Id) : Bool := (t.ancestors t.nodes.size n).contains above

/-- give a directory another parent -/
def adopt (t : FileTree) (n parent : Id) : FileTree :=
  match t.content n with
  | .dir es _ present => t.set n (.dir es parent present)
  | _ => t

/-- give a node another name; what has that name goes, if it is to be replaced -/
def rename (t : FileTree) (cwd : Id) (path goal : Bytes) (replace : Bool := true) :
    Answer FileTree := do
  let a ← t.place cwd path
  let b ← t.place cwd goal
  if isDots a.name then throw Errno.busy
  if isDots b.name then throw (if replace then Errno.busy else Errno.alreadyExists)
  match t.child? a with
  | none => throw Errno.noEntry
  | some n =>
    if !replace && (t.child? b).isSome then throw Errno.alreadyExists
    if !t.isDir n && (a.slashed || b.slashed) then throw Errno.notDirectory
    if t.isDir n && t.isWithin b.dir n then throw Errno.invalid
    if !t.isPresent b.dir then throw Errno.noEntry
    match t.child? b with
    | none => return (((t.erase a.dir a.name).insert b.dir b.name n).adopt n b.dir)
    | some m =>
      if m = n then return t
      if t.isDir m then
        if !t.isDir n then throw Errno.isDirectory
        if t.entries m ≠ [] then throw Errno.notEmpty
      else if t.isDir n then throw Errno.notDirectory
      return ((((t.erase a.dir a.name).drop m).insert b.dir b.name n).adopt n b.dir)

/-- remove everything below a directory, at most `fuel` levels -/
def clear (t : FileTree) : Nat → Id → FileTree
  | 0, _ => t
  | fuel + 1, n =>
    (t.entries n).foldl (fun t e => if t.isDir e.2 then (t.clear fuel e.2).drop e.2 else t)
      (t.setEntries n fun _ => [])

/-- Remove a link, or a directory with all that is in it: first what is in it, then its name, which
may be gone by then. The first part stands if the second fails. -/
def removeAll (t : FileTree) (cwd : Id) (path : Bytes) : Option Int × FileTree :=
  match t.findLink cwd path with
  | .error e => (some e, t)
  | .ok n =>
    match t.content n with
    | .link _ =>
      match t.unlink cwd path with
      | .ok t => (none, t)
      | .error e => (some e, t)
    | .dir .. =>
      let t := t.clear t.nodes.size n
      match t.rmdir cwd path with
      | .ok t => (none, t)
      | .error e => (if e = Errno.noEntry then none else some e, t)
    | _ => (some Errno.notDirectory, t)

/-- the path of a directory from the root; none if it or a directory above it was removed -/
def pathFrom (t : FileTree) : Nat → Id → Option Bytes
  | 0, _ => none
  | fuel + 1, n =>
    if n = root then some []
    else if !t.isPresent n then none
    else do
      let up := t.parent n
      let above ← t.pathFrom fuel up
      let name ← ((t.entries up).find? fun e => e.2 = n).map Prod.fst
      return above ++ Path.slash :: name

def pathOf (t : FileTree) (n : Id) : Answer Bytes :=
  match t.pathFrom t.nodes.size n with
  | none => .error Errno.noEntry
  | some [] => .ok [Path.slash]
  | some path => .ok path

def chdir (t : FileTree) (cwd : Id) (path : Bytes) : Answer Id := do
  let n ← t.find cwd path
  if t.isDir n then return n
  throw Errno.notDirectory

/-- a file under a path, with what it held replaced -/
def putFile (t : FileTree) (cwd : Id) (path : Bytes) (mode : Nat) (data : ByteArray) :
    Answer FileTree := do
  let p ← t.place cwd path
  match t.child? p with
  | some n => return t.modify n fun old => { old with content := .file data, mode := mode }
  | none => return (← t.create p (.file data) mode).2

def zeros (n : Nat) : ByteArray := ⟨Array.replicate n 0⟩

/-- put `piece` into a file at `offset`, with zeros where nothing was -/
def overwrite (t : FileTree) (n : Id) (offset : Nat) (piece : ByteArray) : FileTree :=
  t.modify n fun old =>
    match old.content with
    | .file data =>
      let size := data.size
      let data :=
        if offset = size then data ++ piece
        else if size < offset then data ++ zeros (offset - size) ++ piece
        else data.extract 0 offset ++ piece ++ data.extract (offset + piece.size) size
      ⟨.file data, old.mode, t.now⟩
    | _ => old

/-- the directories of a path, those that are missing made -/
def mkdirs (t : FileTree) (from_ : Id) (comps : List Bytes) : FileTree × Id :=
  comps.foldl (fun (t, d) c =>
    if isDots c then (t, ((t.child? ⟨d, c, false⟩).getD d))
    else match (t.entries d).lookup c with
      | some n => (t, n)
      | none =>
        let (n, t) := t.add (.dir [] d true) dirMode
        (t.insert d c n, n)) (t, from_)

/-- what a path holds, if it can be read -/
def contents? (t : FileTree) (cwd : Id) (path : Bytes) : Option Bytes :=
  match t.find cwd path with
  | .ok n => match t.content n with
    | .file data => some data.toList
    | .device .null => some []
    | _ => none
  | .error _ => none

end FileTree
end JarLauncher
