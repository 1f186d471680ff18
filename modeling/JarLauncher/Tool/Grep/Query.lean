import JarLauncher.Tool.Count
import JarLauncher.Tool.Input
import JarLauncher.Tool.Option
import JarLauncher.Tool.Regex.Lookaround

/-! What is looked for in lines: expressions, how they are compared, and what is shown of the lines
that match. -/

namespace JarLauncher.Tool

open Unix
open Shell (text newline)

/-- how expressions are written -/
inductive Wording where
  | basic
  | extended
  | fixed
  | lookaround
  deriving DecidableEq

/-- what becomes of a match in an input that holds more than text -/
inductive Mixed where
  | reported
  | shown
  | ignored
  deriving DecidableEq

/-- what becomes of a directory among the operands -/
inductive Directories where
  | read
  | recurse
  | skip
  deriving DecidableEq

/-- an expression, and the file and line that it comes from -/
structure Wanted where
  octets : Bytes
  file : Option Bytes := none
  line : Nat := 1

structure Grep where
  patterns : List Wanted := []
  /-- there were expressions, even if a file of them was empty -/
  isGiven : Bool := false
  wording : Option Wording := none
  folds : Bool := false
  words : Bool := false
  whole : Bool := false
  inverted : Bool := false
  counts : Bool := false
  numbers : Bool := false
  /-- names of files that match, or that do not -/
  lists : Option Bool := none
  onlyMatches : Bool := false
  quiet : Bool := false
  silent : Bool := false
  names : Option Bool := none
  directories : Directories := .read
  /-- links are followed in directories too -/
  follows : Bool := false
  /-- devices are passed over, or read; otherwise they are read as operands alone -/
  skipsDevices : Option Bool := none
  /-- names of files that are passed over, or that are not, as was said in turn -/
  filters : List (Bool × Bytes) := []
  /-- names of directories that are passed over -/
  closed : List Bytes := []
  most : Option Nat := none
  /-- the lines that are shown before and after one that matches -/
  before : Option Nat := none
  after : Option Nat := none
  around : Option Nat := none
  /-- digits that stand for options, and the argument that they stand in -/
  digits : Bytes := []
  digitsAt : Option Nat := none
  /-- the line between what is not adjacent -/
  divider : Option Bytes := some (text "--")
  places : Bool := false
  aligned : Bool := false
  nulEnded : Bool := false
  nulNames : Bool := false
  coloured : Bool := false
  mixed : Mixed := .reported
  /-- the name of standard input -/
  label : Bytes := text "(standard input)"

namespace Grep

def usageLine : String := "Usage: grep [OPTION]... PATTERNS [FILE]...\n"

def usage {α : Type} : Work α := do
  Work.say [text usageLine]
  Work.usage

/-- the end for a word that is none of those that an option knows -/
def misspelt {α : Type} : Work α := do
  modify fun d => { d with failure := 1 }
  usage

def menu : Menu :=
  { letters :=
      "0123456789A:B:C:D:EFGHILPTUVX:abcd:e:f:hiLlm:noqRrsuvwxyZz"
    words := [flag "basic-regexp" 'G', flag "extended-regexp" 'E', flag "fixed-regexp" 'F',
      flag "fixed-strings" 'F', flag "perl-regexp" 'P', valued "after-context" 'A',
      valued "before-context" 'B', valued "binary-files" 'Y', flag "byte-offset" 'b',
      valued "context" 'C', ⟨"color", .optional, 'K'⟩, ⟨"colour", .optional, 'K'⟩, flag "count" 'c',
      valued "devices" 'D', valued "directories" 'd', valued "exclude" 'x',
      valued "exclude-from" '<',
      valued "exclude-dir" '/', valued "file" 'f', flag "files-with-matches" 'l',
      flag "files-without-match" 'L', valued "group-separator" '=', flag "help" '?',
      valued "include" 'N', flag "ignore-case" 'i', flag "no-ignore-case" 'j',
      flag "initial-tab" 'T', valued "label" '@', flag "line-buffered" 'U', flag "line-number" 'n',
      flag "line-regexp" 'W', valued "max-count" 'm', flag "no-filename" 'h',
      flag "no-group-separator" '+', flag "no-messages" 's', flag "null" 'Z', flag "null-data" 'z',
      flag "only-matching" 'o', flag "quiet" 'q', flag "recursive" 'r',
      flag "dereference-recursive" 'R', valued "regexp" 'e', flag "invert-match" 'v',
      flag "silent" 'q', flag "text" 'a', flag "binary" 'U', flag "unix-byte-offsets" 'u',
      flag "version" '?', flag "with-filename" 'H', flag "word-regexp" 'w'] }

def contextSize (value : Bytes) : Work Nat := do
  match Count.whole? value with
  | some (.ofNat n) => return n
  | _ => Work.fail [value, text ": invalid context length argument"]

/-- the lines of a text as expressions -/
def wantedIn (file : Option Bytes) (lines : List Bytes) : List Wanted :=
  (lines.zipIdx 1).map fun (bs, n) => ⟨bs, file, n⟩

def setWording (g : Grep) (w : Wording) : Work Grep := do
  if g.wording.any (· ≠ w) then Work.fail [text "conflicting matchers specified"]
  return { g with wording := some w }

/-- the lines of a file that an option names -/
def fileLines (value : Bytes) : Work (List Bytes) := do
  match ← Work.openOperand value with
  | .error e => Work.fail [value, text ": ", reason e]
  | .ok fd =>
    match ← Work.readAll fd with
    | .error e => Work.fail [value, text ": ", reason e]
    | .ok data =>
      Work.closeOperand value fd
      return rows newline data.toList

def colourWords : List (String × Bool) :=
  [("always", true), ("yes", true), ("force", true), ("never", false), ("no", false),
   ("none", false), ("auto", false), ("tty", false), ("if-tty", false)]

def trimSlashes (bs : Bytes) : Bytes :=
  match (bs.reverse.dropWhile (· = Path.slash)).reverse with
  | [] => bs.take 1
  | bs => bs

def take (g : Grep) (x : Given) : Work Grep := do
  let value := x.value.getD []
  if x.letter.isDigit then
    let digits := if g.digitsAt = some x.behind then g.digits else []
    let digits := digits ++ text (String.ofList [x.letter])
    return { g with
      digits := digits, digitsAt := some x.behind, around := some (Shell.natOf digits) }
  let g := { g with digitsAt := none }
  match x.letter with
  | 'e' => return { g with
      patterns := g.patterns ++ wantedIn none (Path.splitOn newline value), isGiven := true }
  | 'f' => return { g with
      patterns := g.patterns ++ wantedIn (some value) (← fileLines value), isGiven := true }
  | 'E' => g.setWording .extended
  | 'F' => g.setWording .fixed
  | 'G' => g.setWording .basic
  | 'P' => g.setWording .lookaround
  | 'i' | 'y' => return { g with folds := true }
  | 'j' => return { g with folds := false }
  | 'v' => return { g with inverted := true }
  | 'w' => return { g with words := true }
  | 'x' =>
    match x.value with
    | some value => return { g with filters := g.filters ++ [(false, value)] }
    | none => return { g with whole := true }
  | 'W' => return { g with whole := true }
  | 'N' => return { g with filters := g.filters ++ [(true, value)] }
  | '<' => return { g with filters := g.filters ++ (← fileLines value).map (false, ·) }
  | '/' => return { g with closed := g.closed ++ [trimSlashes value] }
  | 'c' => return { g with counts := true }
  | 'n' => return { g with numbers := true }
  | 'l' => return { g with lists := some true }
  | 'L' => return { g with lists := some false }
  | 'o' => return { g with onlyMatches := true }
  | 'q' => return { g with quiet := true }
  | 's' => return { g with silent := true }
  | 'H' => return { g with names := some true }
  | 'h' => return { g with names := some false }
  | 'r' => return { g with directories := .recurse, follows := false }
  | 'R' => return { g with directories := .recurse, follows := true }
  | 'd' => return { g with
      directories := ← Work.chooseOr misspelt "--directories"
        [("read", .read), ("recurse", .recurse), ("skip", .skip)] value }
  | 'D' =>
    if value = text "read" then return { g with skipsDevices := some false }
    else if value = text "skip" then return { g with skipsDevices := some true }
    else Work.fail [text "unknown devices method"]
  | 'A' => return { g with after := ← contextSize value }
  | 'B' => return { g with before := ← contextSize value }
  | 'C' => return { g with around := ← contextSize value }
  | 'b' => return { g with places := true }
  | 'T' => return { g with aligned := true }
  | 'z' => return { g with nulEnded := true }
  | '@' => return { g with label := value }
  | 'Z' => return { g with nulNames := true }
  | '=' => return { g with divider := some value }
  | '+' => return { g with divider := none }
  | 'a' => return { g with mixed := .shown }
  | 'I' => return { g with mixed := .ignored }
  | 'Y' =>
    if value = text "binary" then return { g with mixed := .reported }
    else if value = text "text" then return { g with mixed := .shown }
    else if value = text "without-match" then return { g with mixed := .ignored }
    else Work.fail [text "unknown binary-files type"]
  | 'K' =>
    match x.value with
    | none => return { g with coloured := false }
    | some value =>
      match colourWords.lookup (Utf8.lossy value) with
      | some on => return { g with coloured := on }
      | none => throw 0
  | 'm' =>
    match Count.whole? value with
    | some (.ofNat n) => return { g with most := some n }
    | some (.negSucc _) => return { g with most := none }
    | none => Work.fail [text "invalid max count"]
  | 'u' =>
    Work.complain [text "warning: --unix-byte-offsets (-u) is obsolete"]
    return g
  | _ => return g

def linesBefore (g : Grep) : Nat := (g.before <|> g.around).getD 0

def linesAfter (g : Grep) : Nat := (g.after <|> g.around).getD 0

/-- lines around matches were asked for, even if none of them -/
def hasContext (g : Grep) : Bool := (g.before <|> g.after <|> g.around).isSome

def ending (g : Grep) : UInt8 := if g.nulEnded then 0 else newline

/-- what is looked for, ready to be matched -/
structure Matcher where
  regexes : List Regex
  /-- the preferred match counts, not the longest -/
  prefers : Bool := false
  /-- matches stand between what is no part of a word -/
  words : Bool := false

/-- the expressions that octets spell, and what is to be said of them -/
def compile (g : Grep) : Work Matcher := do
  let wording := g.wording.getD .basic
  let mut regexes : List Regex := []
  let mut warnings : List String := []
  let mut faults := false
  let mut seen : List Bytes := []
  if wording = .lookaround ∧ 1 < g.patterns.length then
    Work.fail [text "the -P option only supports a single pattern"]
  for w in g.patterns do
    if !seen.contains w.octets then
      seen := w.octets :: seen
      let answer : Except String (Regex × List String) := match wording with
        | .fixed => .ok (Regex.ofOctets { folds := g.folds } w.octets, [])
        | .lookaround => (Regex.Lookaround.read? g.folds w.octets).map (·, [])
        | _ =>
          let dialect : Regex.Dialect :=
            { extended := wording = .extended, folds := g.folds, lenient := true, wary := true }
          (Regex.readAll? dialect w.octets).map fun (r, s) => (r, s.warnings.reverse)
      match answer with
      | .ok (r, more) =>
        let around (a r b : Regex) : Regex := .both a (.both r b)
        let r := if g.whole then around .start r .finish
          else if g.words && wording = .lookaround then
            around (.behind false (.one Shell.isNameChar)) r (.ahead false (.one Shell.isNameChar))
          else r
        regexes := regexes ++ [r]
        warnings := warnings ++ more
      | .error message =>
        faults := true
        let place := match w.file with
          | some file => file ++ text ":" ++ Shell.decimal w.line ++ text ": "
          | none => []
        if message = Regex.halfClass then Work.fail [text message]
        Work.complain [place, text message]
  if faults then throw (← get).failure
  for x in warnings do
    Work.complain [text ("warning: " ++ x)]
  return ⟨regexes, wording = .lookaround, g.words && !g.whole && wording ≠ .lookaround⟩

/-- a match that stands between what is no part of a word -/
def isFramed (input : ByteArray) (start stop : Nat) : Bool :=
  !(start ≠ 0 && Regex.isWordAt input (start - 1)) && !Regex.isWordAt input stop

/-- the longest of some matches -/
def longest (found : List Regex.Match) : Option Regex.Match :=
  found.foldl (fun best m => match best with
    | some b => if b.stop < m.stop then some m else best
    | none => some m) none

/-- the match at a place, of any of the expressions the longest -/
def Matcher.at_ (q : Matcher) (input : ByteArray) (i : Nat) : Option Regex.Match :=
  longest (q.regexes.flatMap fun r =>
    if q.prefers then (r.preferredAt? input i).toList
    else if q.words then
      (r.outcomes input { at_ := i }).filterMap fun s =>
        if isFramed input i s.at_ then some ⟨i, s.at_, s.groups⟩ else none
    else (r.matchAt? input i).toList)

/-- the first match from a place on -/
def Matcher.find? (q : Matcher) (input : ByteArray) (from_ : Nat) : Option Regex.Match :=
  (List.range (input.size + 1 - from_)).findSome? fun i => q.at_ input (from_ + i)

/-- all matches in a line that hold something, with their places; `fuel` bounds their number -/
def Matcher.allFrom (q : Matcher) (input : ByteArray) : Nat → Nat → List (Nat × Bytes)
  | 0, _ => []
  | fuel + 1, i =>
    match q.find? input i with
    | none => []
    | some m =>
      if m.stop ≤ m.start then allFrom q input fuel (m.start + 1)
      else (m.start, m.group input 0) :: allFrom q input fuel m.stop

def Matcher.all (q : Matcher) (line : Bytes) : List (Nat × Bytes) :=
  let input := Act.octets line
  q.allFrom input (input.size + 2) 0

def Matcher.holds (q : Matcher) (line : Bytes) : Bool := (q.find? (Act.octets line) 0).isSome

end Grep
end JarLauncher.Tool
