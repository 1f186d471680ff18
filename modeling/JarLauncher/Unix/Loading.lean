import JarLauncher.Unix.Activity

/-! What a program needs before it starts: memory for itself, and a descriptor and memory for the
libraries that it is linked with. -/

namespace JarLauncher.Unix

/-- why a program does not start -/
inductive Hitch where
  /-- it has no room for itself -/
  | fault
  /-- a library cannot be had -/
  | library (why : String)
  deriving DecidableEq

namespace Loading

/-- the kilobytes of stack, of data and of addresses that a program takes by itself -/
def needs : List (Char × Nat) := [('s', 12), ('d', 44), ('v', 560)]

/-- the kilobytes of addresses that it takes with its libraries -/
def spaceNeeded : Nat := 2600

def hitch? (s : System) (p : Pid) : Option Hitch :=
  let lacks (c : Char) (needed : Nat) : Bool := ((s.limits p).soft c).any (· < needed)
  if needs.any fun (c, n) => lacks c n then some .fault
  else if let .error e := s.freeNumber p 0 then
    some (.library ("cannot open shared object file: Error " ++ toString e))
  else if lacks 'v' spaceNeeded then some (.library "failed to map segment from shared object")
  else none

/-- the library that most programs are linked with first, and those that others are -/
def commonLibrary : String := "libc.so.6"

def otherLibraries : List (String × List String) :=
  [("libacl.so.1", ["sed", "tar"]),
   ("libcap-ng.so.0", ["setpriv"]),
   ("libcrypto.so.3", ["cksum", "md5sum", "sha1sum", "sha224sum", "sha256sum", "sha384sum",
      "sha512sum", "sort"]),
   ("libgmp.so.10", ["expr", "factor"]),
   ("libm.so.6", ["awk", "mawk"]),
   ("libpcre2-8.so.0", ["grep"]),
   ("libproc2.so.0", ["free", "ps", "top", "uptime"]),
   ("libselinux.so.1", ["chcon", "cp", "dir", "find", "id", "install", "ls", "mkdir", "mkfifo",
      "mknod", "mv", "nsenter", "stat", "vdir"]),
   ("libsmartcols.so.1", ["prlimit"]),
   ("libtinfo.so.6", ["bash", "rbash"])]

/-- the first library that a program is linked with -/
def firstLibrary (program : String) : String :=
  ((otherLibraries.find? fun (_, programs) => programs.contains program).map Prod.fst).getD
    commonLibrary

/-- the status of a program whose libraries cannot be had -/
def failureStatus : Nat := 127

def failure (i : Image) (why : String) : Act Unit :=
  Act.complain (i.argv.headD [] ++ Utf8.encode (": error while loading shared libraries: " ++
    firstLibrary i.program ++ ": " ++ why ++ "\n"))

/-- a program's work, if the program can be started -/
def start (i : Image) (work : Activity) : Activity :=
  .call 0 fun p s =>
    match hitch? s p with
    | none => (some work, s)
    | some .fault => (none, s.terminate p (.killed Signal.segmentation))
    | some (.library why) => (some (failure i why fun _ => .exit failureStatus), s)

end Loading
end JarLauncher.Unix
