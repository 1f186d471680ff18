import JarLauncher.FileTree.Path
import JarLauncher.Shell.Char

/-! The path that commands are looked for in: directories with a colon between each two. A directory
may be marked: its files define functions, or the commands of the shell are found in its place. -/

namespace JarLauncher.Shell

/-- where programs are looked for if nobody says -/
def standardPath : Bytes := text "/usr/local/sbin:/usr/local/bin:/usr/sbin:/usr/bin:/sbin:/bin"

namespace CommandPath

/-- what a percent sign marks a directory of a path as -/
inductive Mark where
  /-- each of its files defines the function of its name -/
  | functions
  /-- the shell's own commands are found here, and no files -/
  | builtins
  deriving DecidableEq

def Mark.spelling : Mark → Bytes
  | functions => text "func"
  | builtins => text "builtin"

/-- the mark at the front of a text, and what follows it -/
def Mark.ofText? (bs : Bytes) : Option (Mark × Bytes) :=
  [Mark.builtins, Mark.functions].findSome? fun m =>
    if m.spelling.isPrefixOf bs then some (m, bs.drop m.spelling.length) else none

structure Dir where
  dir : Bytes
  mark : Option Mark

/-- An entry of a path: a directory with a mark behind it, or before it. What else follows a percent
sign belongs to the name. -/
def Dir.ofText (entry : Bytes) : Dir :=
  let plain : Dir :=
    match entry.span (· ≠ 37) with
    | (dir, _ :: mark) =>
      match Mark.ofText? mark with
      | some (m, _) => ⟨dir, some m⟩
      | none => ⟨entry, none⟩
    | _ => ⟨entry, none⟩
  match entry with
  | 37 :: rest =>
    match Mark.ofText? rest with
    | some (m, 37 :: dir) | some (m, dir) => ⟨dir, some m⟩
    | none => plain
  | _ => plain

def dirs (path : Bytes) : List Dir := (Path.splitOn 58 path).map Dir.ofText

/-- the place of the entry that begins with the mark of the shell's own commands -/
def ownPlace? (path : Bytes) : Option Nat :=
  (Path.splitOn 58 path).findIdx? fun entry =>
    (37 :: Mark.spelling .builtins).isPrefixOf entry

/-- directories come before the place of the shell's own commands -/
def findsFilesFirst (path : Bytes) : Bool := (ownPlace? path).any (0 < ·)

def fileIn (d : Dir) (name : Bytes) : Bytes :=
  if d.dir = [] then name else d.dir ++ 47 :: name

/-- the path of a file that was found in the directory with this place -/
def fileAt (path name : Bytes) (index : Option Nat) : Bytes :=
  match index with
  | some i => ((dirs path)[i]?.map (fileIn · name)).getD name
  | none => name

end CommandPath
end JarLauncher.Shell
