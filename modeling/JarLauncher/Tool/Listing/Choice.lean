import JarLauncher.Shell.Pattern
import JarLauncher.Text.Scaled
import JarLauncher.Tool.Count

/-! How the content of directories is listed: which names, in which order, and what stands beside
them. -/

namespace JarLauncher.Tool

open Unix
open Shell (text newline)

/-- how names are laid out -/
inductive Format where
  | perLine
  | long
  | columns
  | across
  | commas
  deriving DecidableEq

inductive SortedBy where
  | nothing
  | name
  | time
  | size
  | ending
  | version
  | width
  deriving DecidableEq

/-- marks behind names: none, of directories, of all kinds, and of programs too -/
inductive Marks where
  | none
  | dirs
  | kinds
  | all
  deriving DecidableEq

/-- which links are followed: those among the operands that lead to directories, all operands, all,
or none -/
inductive Follow where
  | never
  | toDirs
  | operands
  | always
  deriving DecidableEq

/-- what is left out: names with a dot in front, only the directory and the one above it, or
nothing -/
inductive Hidden where
  | dotted
  | dots
  | nothing
  deriving DecidableEq

structure Listing where
  format : Option Format := none
  usual : Format := .perLine
  sortedBy : Option SortedBy := none
  hidden : Hidden := .dotted
  /-- patterns of names that are left out, and of those that are left out unless hidden names are
  asked for -/
  ignored : List Bytes := []
  hides : List Bytes := []
  /-- directories as such -/
  themselves : Bool := false
  recursive : Bool := false
  reversed : Bool := false
  dirsFirst : Bool := false
  follow : Option Follow := none
  owner : Bool := true
  group : Bool := true
  author : Bool := false
  numbers : Bool := false
  inodes : Bool := false
  blocks : Bool := false
  context : Bool := false
  marks : Marks := .none
  style : Option Quoting.Style := none
  usualStyle : Quoting.Style := .literal
  /-- signs that cannot be shown are question marks -/
  masks : Bool := false
  sizes : Text.Scaled := .plain 1
  blockSizes : Option Text.Scaled := none
  timeStyle : Option Bytes := none
  /-- the time was asked for, and counts for the order too -/
  timed : Bool := false
  width : Option Nat := none
  tab : Option Nat := none
  ending : UInt8 := newline

namespace Listing

def menu : Menu :=
  { letters := "abcdfghiklmnopqrstuvw:xABCDFGHI:LNQRST:UXZ1"
    words := [flag "all" 'a', flag "escape" 'b', flag "directory" 'd', flag "dired" 'D',
      flag "full-time" 'Y', flag "group-directories-first" '/', flag "human-readable" 'h',
      flag "inode" 'i', flag "kibibytes" 'k', flag "numeric-uid-gid" 'n', flag "no-group" 'G',
      flag "hide-control-chars" 'q', flag "reverse" 'r', flag "size" 's', valued "width" 'w',
      flag "almost-all" 'A', flag "ignore-backups" 'B', ⟨"classify", .optional, 'F'⟩,
      flag "file-type" 'f', flag "si" '=', flag "dereference-command-line" 'H',
      flag "dereference-command-line-symlink-to-dir" '>', valued "hide" '-', valued "ignore" 'I',
      valued "indicator-style" '*', flag "dereference" 'L', flag "literal" 'N',
      flag "quote-name" 'Q', valued "quoting-style" 'j', flag "recursive" 'R', valued "format" 'e',
      flag "show-control-chars" 'J', valued "sort" 'O', valued "tabsize" 'T', valued "time" '@',
      valued "time-style" 'y', flag "zero" '0', ⟨"color", .optional, '%'⟩,
      ⟨"hyperlink", .optional, '#'⟩, valued "block-size" 'K', flag "context" 'Z',
      flag "author" '&'] }

inductive When where
  | always
  | never
  | onTerminal
  deriving DecidableEq

def whenWords : List (String × When) :=
  [("always", .always), ("yes", .always), ("force", .always), ("never", .never), ("no", .never),
   ("none", .never), ("auto", .onTerminal), ("tty", .onTerminal), ("if-tty", .onTerminal)]

/-- the end when a word is none of those that are meant -/
def strayed {α : Type} : Work α := do
  modify fun d => { d with failure := 1 }
  Work.usage

def choose {α : Type} [BEq α] (what : String) (words : List (String × α)) (g : Given) : Work α :=
  Work.chooseOr strayed what words (g.value.getD [])

/-- the size of blocks that a word asks for, without a number in front by its unit -/
def blockSize (value : Bytes) : Work Text.Scaled := do
  let units := "EGgKkMmPTtYZ"
  if value = text "human-readable" then return .human
  if value = text "si" then return .decimal
  let refuse (word : String) : Work Text.Scaled :=
    Work.fail [text (word ++ "--block-size argument "), Quoting.plain value]
  match Count.scaled units value with
  | .ok (n + 1) =>
    if value.head?.any Shell.isDigit then return .plain (n + 1)
    let octets := value.getLast? = some 66
    let isBinary := !octets || value.contains 105
    return { base := if isBinary then 1024 else 1000, isFree := false, unit := n + 1,
             isNamed := true, octets := octets }
  | .ok 0 | .error .meaningless => refuse "invalid "
  | .error .large =>
    Work.fail [text "--block-size argument ", Quoting.plain value, text " too large"]

def setFormat (l : Listing) (f : Format) : Listing := { l with format := some f }

def setOrder (l : Listing) (o : SortedBy) : Listing := { l with sortedBy := some o }

def take (l : Listing) (g : Given) : Work Listing := do
  let value := g.value.getD []
  match g.letter with
  | 'a' => return { l with hidden := .nothing }
  | 'A' => return { l with hidden := .dots }
  | 'b' => return { l with style := some .escape }
  | 'B' => return { l with ignored := l.ignored ++ [text "*~", text ".*~"] }
  | 'c' | 'u' => return { l with timed := true }
  | 'd' => return { l with themselves := true }
  | 'f' =>
    if g.isWord then return { l with marks := .kinds }
    return { l with
      hidden := .nothing, sortedBy := some .nothing, blocks := false
      format := if l.format = some .long then none else l.format }
  | 'F' =>
    if g.value.isSome then
      if (← choose "--classify" whenWords g) ≠ .always then return l
    return { l with marks := .all }
  | 'g' => return { l with owner := false }.setFormat .long
  | 'G' => return { l with group := false }
  | 'h' => return { l with sizes := .human, blockSizes := some .human }
  | '=' => return { l with sizes := .decimal, blockSizes := some .decimal }
  | 'i' => return { l with inodes := true }
  | 'l' => return l.setFormat .long
  | 'm' => return l.setFormat .commas
  | 'n' => return { l with numbers := true }.setFormat .long
  | 'o' => return { l with group := false }.setFormat .long
  | 'p' => return { l with marks := .dirs }
  | 'q' => return { l with masks := true }
  | 'J' => return { l with masks := false }
  | 'r' => return { l with reversed := true }
  | 's' => return { l with blocks := true }
  | 't' => return l.setOrder .time
  | 'v' => return l.setOrder .version
  | 'w' =>
    match Count.scaled "" value true with
    | .error .meaningless => Work.fail [text "invalid line width: ", Quoting.plain value]
    | .error .large => return { l with width := some 0 }
    | .ok n => return { l with width := some n }
  | 'x' => return l.setFormat .across
  | 'C' => return l.setFormat .columns
  | 'H' => return { l with follow := some .operands }
  | '>' => return { l with follow := some .toDirs }
  | 'L' => return { l with follow := some .always }
  | 'I' => return { l with ignored := l.ignored ++ [value] }
  | '-' => return { l with hides := l.hides ++ [value] }
  | 'N' => return { l with style := some .literal }
  | 'Q' => return { l with style := some .c }
  | 'R' => return { l with recursive := true }
  | 'S' => return l.setOrder .size
  | 'T' =>
    match Count.scaled "" value true with
    | .ok n => return { l with tab := some n }
    | .error _ => Work.fail [text "invalid tab size: ", Quoting.plain value]
  | 'U' => return l.setOrder .nothing
  | 'X' => return l.setOrder .ending
  | '1' => return if l.format = some .long then l else l.setFormat .perLine
  | '/' => return { l with dirsFirst := true }
  | '&' => return { l with author := true }
  | 'Z' => return { l with context := true }
  | 'Y' => return { l with timeStyle := some (text "full-iso") }.setFormat .long
  | 'y' => return { l with timeStyle := some value }
  | 'O' => return l.setOrder (← choose "--sort"
      [("none", SortedBy.nothing), ("time", .time), ("size", .size), ("extension", .ending),
       ("version", .version), ("width", .width)] g)
  | '@' =>
    let _ ← choose "--time" [("atime", 0), ("access", 0), ("use", 0), ("ctime", 1), ("status", 1),
      ("mtime", 2), ("modification", 2), ("birth", 3), ("creation", 3)] g
    return { l with timed := true }
  | 'e' => return l.setFormat (← choose "--format"
      [("verbose", Format.long), ("long", .long), ("commas", .commas), ("horizontal", .across),
       ("across", .across), ("vertical", .columns), ("single-column", .perLine)] g)
  | '%' =>
    if g.value.isSome then let _ ← choose "--color" whenWords g
    return l
  | '#' =>
    if g.value.isSome then let _ ← choose "--hyperlink" whenWords g
    return l
  | '*' =>
    let marks ← choose "--indicator-style"
      [("none", Marks.none), ("slash", .dirs), ("file-type", .kinds), ("classify", .all)] g
    return { l with marks := marks }
  | 'j' => return { l with style := some (← choose "--quoting-style" Quoting.Style.words g) }
  | 'K' =>
    let size ← blockSize value
    return { l with sizes := size, blockSizes := some size }
  | '0' =>
    return { l with
      ending := 0, style := some .literal
      format := if l.format = some .long then l.format else some .perLine }
  | _ => return l

def shape (l : Listing) : Format := l.format.getD l.usual

def isLong (l : Listing) : Bool := l.shape = .long

def order (l : Listing) : SortedBy :=
  l.sortedBy.getD (if !l.isLong && l.timed then .time else .name)

def quoting (l : Listing) : Quoting.Style := l.style.getD l.usualStyle

def following (l : Listing) : Follow :=
  l.follow.getD (if l.themselves || l.isLong || l.marks = .all then .never else .toDirs)

def blockScale (l : Listing) : Text.Scaled := l.blockSizes.getD (.plain 1024)

/-- a name is to be shown -/
def shows (l : Listing) (name : Bytes) : Bool :=
  let matched (patterns : List Bytes) : Bool := patterns.any fun p =>
    (name.head? ≠ some Path.dot || p.head? = some Path.dot) && Shell.Pattern.accepts p name
  let isDots : Bool := name = Path.here || name = Path.up
  let isHidden : Bool := match l.hidden with
    | .dotted => name.head? = some Path.dot || matched l.hides
    | .dots => isDots
    | .nothing => false
  !isHidden && !matched l.ignored

/-- what the environment says about the width of lines, of tabs and about quotes -/
def fromEnvironment (l : Listing) : Work Listing := do
  let env := (← get).env
  let isWide := l.shape = .columns ∨ l.shape = .across ∨ l.shape = .commas
  let ignore (what : String) (value : Bytes) : Work Unit :=
    Work.complain [text ("ignoring invalid " ++ what ++ ": "), Quoting.plain value]
  let mut l := l
  if isWide ∧ l.width = none then
    if let some (b :: value) := env.lookup (text "COLUMNS") then
      match Count.scaled "" (b :: value) true with
      | .ok n => l := { l with width := some n }
      | .error .large => l := { l with width := some 0 }
      | .error .meaningless => ignore "width in environment variable COLUMNS" (b :: value)
  if isWide ∧ l.tab = none then
    if let some value := env.lookup (text "TABSIZE") then
      match Count.scaled "" value true with
      | .ok n => l := { l with tab := some n }
      | .error _ => ignore "tab size in environment variable TABSIZE" value
  if l.style = none then
    if let some value := env.lookup (text "QUOTING_STYLE") then
      match Quoting.Style.words.find? fun w => text w.1 = value with
      | some (_, style) => l := { l with style := some style }
      | none => ignore "value of environment variable QUOTING_STYLE" value
  if l.timeStyle = none then
    l := { l with timeStyle := env.lookup (text "TIME_STYLE") }
  return l

end Listing
end JarLauncher.Tool
