import JarLauncher.Tool.Asking
import JarLauncher.Tool.Place

/-! The tool that removes files, and directories with all that they hold. -/

namespace JarLauncher.Tool

open Unix
open Shell (text)

/-- how often it is asked whether something is to go -/
inductive Prompting where
  | never
  /-- once for all, if there is much -/
  | once
  | always
  deriving DecidableEq

structure Removal where
  /-- nothing is said of what is not there -/
  quiet : Bool := false
  recursive : Bool := false
  emptyDirs : Bool := false
  verbose : Bool := false
  prompting : Option Prompting := none
  /-- the root is removed like anything else -/
  sparesNothing : Bool := false

namespace Removal

def promptings : List (String × Prompting) :=
  [("never", .never), ("no", .never), ("none", .never), ("once", .once), ("always", .always),
   ("yes", .always)]

def prompt (how : Removal) (p : Prompting) : Removal :=
  { how with prompting := some p, quiet := how.quiet && p = .never }

def take (how : Removal) (g : Given) : Work Removal := do
  match g.letter with
  | 'f' => return { how with prompting := some .never, quiet := true }
  | 'i' =>
    match g.value with
    | some word => return how.prompt (← Work.choose "--interactive" promptings word)
    | none => return how.prompt .always
  | 'I' => return how.prompt .once
  | 'r' | 'R' => return { how with recursive := true }
  | 'd' => return { how with emptyDirs := true }
  | 'v' => return { how with verbose := true }
  | 'N' => return { how with sparesNothing := true }
  | 'P' =>
    if let some word := g.value.filter (· ≠ text "all") then
      Work.fail [text "unrecognized --preserve-root argument: ", Quoting.always word]
    return { how with sparesNothing := false }
  | _ => return how

def menu : Menu :=
  { letters := "dfirvIR"
    words := [flag "force" 'f', ⟨"interactive", .optional, 'i'⟩, flag "one-file-system" 'o',
      flag "no-preserve-root" 'N', ⟨"preserve-root", .optional, 'P'⟩, flag "recursive" 'r',
      flag "dir" 'd', flag "verbose" 'v'] }

/-- what something is called when it is asked about -/
def kindOf (c : Content) : String :=
  match c with
  | .dir .. => "directory"
  | .link _ => "symbolic link"
  | .file data => if data.isEmpty then "regular empty file" else "regular file"
  | .program _ => "regular file"
  | .pipe .. => "fifo"
  | .device _ | .descriptor _ => "character special file"

/-- ask whether something is to go, if that is asked at all -/
def agrees (how : Removal) (words : String) (path : Bytes) : Work Bool :=
  if how.prompting = some .always then Work.agrees [text words, Quoting.always path]
  else return true

/-- is it one of the faults that are not spoken of? -/
def isQuiet (how : Removal) (e : Int) : Bool :=
  how.quiet && (e = Errno.noEntry || e = Errno.notDirectory)

def refuse (path : Bytes) (e : Int) : Work Bool := do
  Work.warn [text "cannot remove ", Quoting.always path, text ": ", reason e]
  return false

/-- remove one name -/
def excise (how : Removal) (path : Bytes) (isDir : Bool) : Work Bool := do
  match ← Work.change fun t cwd => if isDir then t.rmdir cwd path else t.unlink cwd path with
  | none =>
    if how.verbose then
      Work.putLine (text (if isDir then "removed directory " else "removed ") ++
        Quoting.always path)
    return true
  | some e =>
    if how.isQuiet e then return true
    refuse path e

/-- Remove what a path names; `fuel` bounds how deep. Answers whether the directories above may go
too: not so if something could not be removed, or a directory was to be left as it is. -/
def remove (how : Removal) : Nat → Bytes → Work Bool
  | 0, _ => return false
  | fuel + 1, path => do
    match ← Work.node? path false with
    | .error e => if how.isQuiet e then return true else refuse path e
    | .ok n =>
      match n.content with
      | .dir entries _ _ =>
        if !how.recursive && !(how.emptyDirs && entries.isEmpty) then
          return ← refuse path (if how.emptyDirs then Errno.notEmpty else Errno.isDirectory)
        if entries.isEmpty then
          if ← how.agrees "remove directory " path then how.excise path true else return false
        else if !(← how.agrees "descend into directory " path) then return false
        else
          let mut clear := true
          for (name, _) in entries do
            if !(← remove how fuel (Path.join path name)) then clear := false
          if !clear then return false
          if ← how.agrees "remove directory " path then how.excise path true else return true
      | content =>
        if ← how.agrees ("remove " ++ kindOf content ++ " ") path then how.excise path false
        else return true

/-- remove an operand, if it is one that may be removed -/
def removeOperand (how : Removal) (x : Bytes) : Work Unit := do
  let isRoot : Bool := match ← Work.act (Act.ask fun p s => s.find p x false) with
    | .ok n => n = FileTree.root
    | .error _ => false
  if how.recursive && (Path.bare x).1.getLast?.any FileTree.isDots then
    if (← Work.node? x false).isOk then
      Work.warn [text "refusing to remove '.' or '..' directory: skipping ", Quoting.always x]
      return
  if how.recursive && isRoot && !how.sparesNothing then
    Work.warn ([text "it is dangerous to operate recursively on ", Quoting.always x] ++
      if x = [Path.slash] then [] else [text " (same as '/')"])
    Work.complain [text "use --no-preserve-root to override this failsafe"]
  else
    let _ ← how.remove deepest x

end Removal

def rm : Routine := fun args => do
  let (how, operands) ← Work.options Removal.menu args { : Removal } Removal.take
  if operands.isEmpty then
    if how.quiet then return
    Work.missingOperand
  if how.prompting = some .once && (how.recursive || 3 < operands.length) then
    let count := Shell.decimal operands.length
    let things := if operands.length = 1 then " argument" else " arguments"
    if !(← Work.agrees [text "remove ", count, text things,
        text (if how.recursive then " recursively" else "")]) then return
  operands.forM how.removeOperand

end JarLauncher.Tool
