import JarLauncher.Shell.Start
import JarLauncher.Tool.Registry
import JarLauncher.Unix.Account
import JarLauncher.Unix.Loading
import JarLauncher.Unix.Machine

/-! The system that every scene starts from: its programs under `/usr/bin`, which is also `/bin`,
its devices, the list of accounts, an empty `/tmp`, and the process that all others descend
from. -/

namespace JarLauncher.Unix.Installation

open FileTree (root)
open Shell (text)

/-- the tree with one more node under a name -/
def put (dir : FileTree.Id) (name : String) (mode : Nat) (x : Content) (t : FileTree) : FileTree :=
  let (n, t) := t.add x mode
  t.insert dir (text name) n

def shell : String := "dash"

def programNames : List String := shell :: Tool.registry.map Tool.Entry.name

/-- what is written to a device for its own sake: for all, one after another, and what each is -/
def devices : List (String × Content) :=
  [("null", .device .null), ("zero", .device .zero), ("full", .device .full),
   ("tty", .device .terminal), ("random", .device .zero), ("urandom", .device .zero),
   ("stdin", .descriptor 0), ("stdout", .descriptor 1), ("stderr", .descriptor 2)]

/-- directories that hold nothing, or only what stands in another line -/
def directories : List String :=
  ["boot", "etc", "home", "media", "mnt", "opt", "proc", "root", "run", "srv", "sys", "tmp",
   "usr/games", "usr/include", "usr/lib", "usr/lib64", "usr/local/bin", "usr/local/lib",
   "usr/local/sbin", "usr/sbin", "usr/share", "usr/src", "var/cache", "var/lib", "var/log",
   "var/tmp"]

/-- the links at the root, and where they lead -/
def links : List (String × String) :=
  [("bin", "usr/bin"), ("lib", "usr/lib"), ("lib64", "usr/lib64"), ("sbin", "usr/sbin")]

/-- the list of accounts -/
def accounts : Bytes := (Account.all.map fun a => Utf8.encode a.line).flatten

def deviceMode : Nat := 0o666

/-- how many descriptors have names -/
def namedDescriptors : Nat := 64

def programMode : Nat := 0o755

/-- everybody may make files in it -/
def scratchMode : Nat := 0o1777

def scratchDirs : List String := ["tmp", "var/tmp"]

def tree : FileTree :=
  let start := { FileTree.empty with now := System.startTick }
  let (t, bin) := start.mkdirs root [text "usr", text "bin"]
  let t := programNames.foldl (fun t name => put bin name programMode (.program name) t) t
  let t := put bin "sh" FileTree.linkMode (.link (text shell)) t
  let t := links.foldl (fun t (name, goal) =>
    put root name FileTree.linkMode (.link (text goal)) t) t
  let (t, dev) := t.mkdirs root [text "dev"]
  let t := devices.foldl (fun t (name, x) => put dev name deviceMode x t) t
  let (t, fds) := t.mkdirs dev [text "fd"]
  let t := (List.range namedDescriptors).foldl (fun t fd =>
    put fds (toString fd) deviceMode (.descriptor fd) t) t
  let t := directories.foldl (fun t path => (t.mkdirs root (Path.bare (text path)).1).1) t
  let t := scratchDirs.foldl (fun t path =>
    let (t, n) := t.mkdirs root (Path.bare (text path)).1
    t.modify n fun x => { x with mode := scratchMode }) t
  let (t, etc) := t.mkdirs root [text "etc"]
  put etc "passwd" FileTree.fileMode (.file (Act.octets accounts)) t

/-- the mask that processes start with -/
def startMask : Nat := 0o022

/-- a process with nothing open -/
def process (parent group : Pid) (cwd : FileTree.Id) (dispositions : Dispositions) : Process :=
  { parent := parent
    group := group
    cwd := cwd
    descriptors := []
    dispositions := dispositions
    mask := startMask
    limits := Limits.initial
    caught := []
    condition := .running
    unreported := false
    alarm := none }

/-- the number of the first process after the one that all descend from -/
def firstPid : Pid := 4000

def system : System :=
  { tree := tree
    opened := #[]
    processes := [(System.init, process 0 System.init root fun _ => .ignored)]
    nextPid := firstPid
    now := 0
    happened := 0 }

/-- what a process does as it becomes a program -/
def activity (i : Image) : Activity :=
  Loading.start i
    (if i.program = shell then Shell.Start.program i
    else match Tool.ofName? i.program with
      | some e => e.activity i
      | none => .exit 127)

end JarLauncher.Unix.Installation
