import JarLauncher.Unix.Activity

/-! Becoming another program: which program a file stands for, and where programs are looked for. A
file is a program of the system, or a script that names its interpreter in its first line. -/

namespace JarLauncher.Unix

/-- the longest argument that a program is started with, and the room for all of them -/
def maxArgument : Nat := 131071

def argumentRoom : Nat := 2097152

def pointerSize : Nat := 8

def isTooLong (argv : List Bytes) (env : List (Bytes × Bytes)) : Bool :=
  let lengths := argv.map List.length ++ env.map fun e => e.1.length + e.2.length + 1
  lengths.any (maxArgument < ·) ||
    argumentRoom < lengths.foldl (· + · + 1 + pointerSize) 0

namespace Script

/-- how much of a file is looked at for an interpreter -/
def headSize : Nat := 256

def isSpace (b : UInt8) : Bool := b == 32 || b == 9

def isEnd (b : UInt8) : Bool := isSpace b || b == 0

/-- The interpreter that the first line of a file names, and what else it says. A line that may have
been cut off names one only if something follows the name. -/
def interpreter? (data : ByteArray) : Option (Bytes × Option Bytes) :=
  match (data.extract 0 headSize).toList with
  | 35 :: 33 :: rest =>
    let rest := rest ++ List.replicate (headSize - 2 - rest.length) 0
    let (line, more) := rest.span (· ≠ 10)
    let named := line.dropWhile isSpace
    if more = [] ∧ !named.any isEnd then none
    else
      let line := if more = [] then line.dropLast else line
      let body := ((line.reverse.dropWhile isSpace).reverse).dropWhile isSpace
      let (name, after) := body.span fun b => !isEnd b
      if name = [] then none
      else
        let argument := match after with
          | 0 :: _ | [] => none
          | _ => some ((after.dropWhile isSpace).takeWhile (· ≠ 0))
        some (name, argument.filter (· ≠ []))
  | _ => none

/-- a script names an interpreter that names one, and so on, at most so many times -/
def depth : Nat := 6

end Script

namespace System

/-- the program that a file stands for, and the arguments it gets -/
def load (s : System) (p : Pid) (path : Bytes) (argv : List Bytes) :
    Nat → FileTree.Answer (String × List Bytes)
  | 0 => .error Errno.linkLoop
  | depth + 1 => do
    let n ← s.find p path
    let node := s.tree.node n
    match node.content with
    | .program name => return (name, argv)
    | .file data =>
      if node.mode &&& 0o111 = 0 then throw Errno.accessDenied
      match Script.interpreter? data with
      | some (name, argument) =>
        s.load p name (name :: argument.toList ++ path :: argv.drop 1) depth
      | none => throw Errno.badFormat
    | _ => throw Errno.accessDenied

def image (s : System) (p : Pid) (path : Bytes) (argv : List Bytes) (env : List (Bytes × Bytes)) :
    FileTree.Answer Image := do
  if isTooLong argv env then throw Errno.listTooLong
  let (name, argv) ← s.load p path argv Script.depth
  return ⟨name, argv, env⟩

end System

namespace Act

/-- become the program in a file; it answers only if that cannot be -/
def exec (path : Bytes) (argv : List Bytes) (env : List (Bytes × Bytes)) : Act Int := fun rest =>
  .call callCost fun p s =>
    match s.image p path argv env with
    | .ok image => (some (.become image), s.becomeProgram p)
    | .error e => (some (rest e), s)

def shellPath : Bytes := Utf8.encode "/bin/sh"

/-- the same, with a script that names no interpreter left to the shell -/
def execScript (path : Bytes) (argv : List Bytes) (env : List (Bytes × Bytes)) : Act Int := do
  let e ← exec path argv env
  if e = Errno.badFormat then exec shellPath (shellPath :: path :: argv.drop 1) env else return e

/-- where programs are looked for if the environment does not say -/
def usualPath : Bytes := Utf8.encode "/bin:/usr/bin"

/-- try the directories one after another; a refusal is told if nothing comes of the others -/
def execFrom (name : Bytes) (argv : List Bytes) (env : List (Bytes × Bytes)) (refused : Bool) :
    List Bytes → Act Int
  | [] => return if refused then Errno.accessDenied else Errno.noEntry
  | dir :: dirs => do
    let e ← execScript (if dir = [] then name else Path.join dir name) argv env
    if e = Errno.accessDenied then execFrom name argv env true dirs
    else if e = Errno.noEntry ∨ e = Errno.notDirectory then execFrom name argv env refused dirs
    else return e

def pathName : Bytes := Utf8.encode "PATH"

/-- become a program that is looked for where the environment says -/
def execNamed (name : Bytes) (argv : List Bytes) (env : List (Bytes × Bytes)) : Act Int :=
  if name = [] then return Errno.noEntry
  else if name.contains Path.slash then execScript name argv env
  else execFrom name argv env false
    (Path.splitOn 58 ((env.lookup pathName).getD usualPath))

end Act
end JarLauncher.Unix
