import JarLauncher.Text.Version
import JarLauncher.Tool.Date
import JarLauncher.Tool.Listing.Choice
import JarLauncher.Tool.Mode
import JarLauncher.Tool.Sorting.Order

/-! What is listed of one name: its signs and marks, and what stands beside them; and the order of
names. -/

namespace JarLauncher.Tool

open Unix
open Shell (text newline decimal)

namespace Listing

/-- the size of what a node holds -/
def sizeOf (c : Content) : Nat :=
  match c with
  | .file data => data.size
  | .link target => target.length
  | .dir .. => 4096
  | _ => 0

/-- a name with what is known of it -/
structure Entry where
  name : Bytes
  id : FileTree.Id
  /-- none if it could not be looked at -/
  node : Option Node
  /-- what a link leads to -/
  goal : Option Node := none

namespace Entry

def isDir (e : Entry) : Bool := e.node.any fun n => n.content.isDir

/-- a directory, or a link to one -/
def leadsToDir (e : Entry) : Bool := e.isDir || e.goal.any fun n => n.content.isDir

def size (e : Entry) : Nat := (e.node.map fun n => sizeOf n.content).getD 0

def device? (e : Entry) : Option (Nat × Nat) :=
  match e.node.map Node.content with
  | some (.device d) => some d.numbers
  | _ => none

/-- the room that it takes, in octets -/
def room (e : Entry) : Nat :=
  match e.node.map Node.content with
  | some (.file data) => (data.size + 4095) / 4096 * 4096
  | some (.dir ..) => 4096
  | _ => 0

end Entry

/-- octets that quotes are for, though they are none of the shell's -/
def marked (l : Listing) : List UInt8 :=
  let ofMarks : List UInt8 := match l.marks with
    | .kinds => [42, 61, 62, 64, 124]
    | .all => [61, 62, 64, 124]
    | _ => []
  if l.quoting = .escape then 32 :: ofMarks else ofMarks

/-- signs that cannot be shown, as question marks -/
def masked (l : Listing) (bs : Bytes) : Bytes :=
  let isRaw : Bool := l.quoting = .literal || l.quoting = .shell || l.quoting = .shellAlways
  if l.masks && isRaw then bs.map fun b => if Quoting.isPrintable b then b else 63 else bs

def nameOf (l : Listing) (bs : Bytes) : Bytes := l.masked (l.quoting.write l.marked bs)

/-- how a name of a directory is written above what it holds -/
def headingOf (l : Listing) (bs : Bytes) : Bytes :=
  l.masked (l.quoting.write (58 :: l.marked) bs)

/-- quotes that stand beside names of which only some have them -/
def aligns (l : Listing) (lineWidth : Nat) : Bool :=
  l.quoting.isOptional && (l.isLong || ((l.shape = .columns || l.shape = .across) && lineWidth ≠ 0))

/-- the mark behind a name -/
def mark (l : Listing) (n : Node) : Bytes :=
  let isKind : Bool := l.marks = .kinds || l.marks = .all
  match n.content with
  | .dir .. => if l.marks ≠ .none then [47] else []
  | .link _ => if isKind then [64] else []
  | .pipe .. => if isKind then [124] else []
  | .file _ | .program _ => if l.marks = .all && n.mode &&& 0o111 ≠ 0 then [42] else []
  | _ => []

/-- how wide signs are on a line -/
def widthOf (bs : Bytes) : Nat := (bs.filter Quoting.isPrintable).length

/-- what stands behind the last dot -/
def endingOf (name : Bytes) : Bytes :=
  if name.contains 46 then 46 :: (name.reverse.takeWhile (· ≠ 46)).reverse else []

def compareNames (a b : Entry) : Ordering := Sorting.compareOctets a.name b.name

def compare (l : Listing) (a b : Entry) : Ordering :=
  let byName := compareNames a b
  let changed (e : Entry) : Nat := (e.node.map Node.changed).getD 0
  match l.order with
  | .nothing => .eq
  | .name => byName
  | .time => (Ord.compare (changed b) (changed a)).then byName
  | .size => (Ord.compare b.size a.size).then byName
  | .ending => (Sorting.compareOctets (endingOf a.name) (endingOf b.name)).then byName
  | .version => (Text.Version.compareNames a.name b.name).then byName
  | .width =>
    (Ord.compare (widthOf (l.nameOf a.name)) (widthOf (l.nameOf b.name))).then byName

def inOrder (l : Listing) (es : List Entry) : List Entry :=
  if l.order = .nothing then es
  else
    let precedes (a b : Entry) : Bool :=
      (if l.reversed then l.compare b a else l.compare a b) ≠ .gt
    let es := es.mergeSort precedes
    if l.dirsFirst then
      let (dirs, others) := es.partition Entry.leadsToDir
      dirs ++ others
    else es

/-- a number at the right of a column -/
def right (width : Nat) (bs : Bytes) : Bytes := List.replicate (width - bs.length) 32 ++ bs

/-- a word at the left of a column -/
def left (width : Nat) (bs : Bytes) : Bytes := bs ++ List.replicate (width - bs.length) 32

def widest (xs : List Bytes) : Nat := (xs.map List.length).foldl max 0

def unknown : Bytes := [63]

/-- what stands in front of each name: its number, its blocks and its context; as wide as for all
that was looked at with them -/
def frills (l : Listing) (all es : List Entry) : List Bytes :=
  let isLoose : Bool := l.shape = .commas
  let column (asked : Bool) (value : Entry → Bytes) : List Bytes :=
    let width := if isLoose then 0 else widest (all.map value)
    es.map fun e => if asked then right width (value e) ++ [32] else []
  let numbers := column l.inodes fun e => if e.node.isSome then decimal e.id else unknown
  let blocks := column l.blocks fun e =>
    if e.node.isSome then text (l.blockScale.shown e.room) else unknown
  let contexts := column (l.context && !l.isLong) fun _ => unknown
  (numbers.zip (blocks.zip contexts)).map fun (n, b, c) => n ++ b ++ c

/-- the names, a blank in front if others have quotes there -/
def names (l : Listing) (lineWidth : Nat) (all es : List Entry) : List Bytes :=
  let isQuoted (e : Entry) : Bool := l.quoting.needs l.marked e.name
  let indents := l.aligns lineWidth && all.any isQuoted
  es.map fun e => (if indents && !isQuoted e then [32] else []) ++ l.nameOf e.name

/-- half a year, in seconds: how long ago is not long -/
def recentSpan : Int := 15778476

/-- the patterns of times: of those that are long ago, and of others -/
abbrev Times := Bytes × Bytes

def usualTimes : Times := (text "%b %e  %Y", text "%b %e %H:%M")

/-- how all of a time is shown -/
def fullTime : Bytes := text "%Y-%m-%d %H:%M:%S.%N %z"

/-- the patterns that a style of times stands for -/
def times (l : Listing) : Work Times := do
  let value := l.timeStyle.getD (text "locale")
  match value with
  | 43 :: pattern =>
    match Path.splitOn newline pattern with
    | [pattern] => return (pattern, pattern)
    | [old, recent] => return (old, recent)
    | _ => Work.fail [text "invalid time style format ", Quoting.plain pattern]
  | _ =>
    if (text "posix-").isPrefixOf value then return usualTimes
    let styles : List (String × Times) :=
      [("full-iso", (fullTime, fullTime)),
       ("long-iso", (text "%Y-%m-%d %H:%M", text "%Y-%m-%d %H:%M")),
       ("iso", (text "%Y-%m-%d ", text "%m-%d %H:%M")), ("locale", usualTimes)]
    match styles.filter fun s => value.isPrefixOf (text s.1) with
    | [(_, t)] => return t
    | found =>
      let kind := if found.isEmpty then "invalid" else "ambiguous"
      Work.misuse [text (kind ++ " argument "), Quoting.plain value, text " for 'time style'",
        text "\nValid arguments are:\n  - [posix-]full-iso\n  - [posix-]long-iso\n",
        text "  - [posix-]iso\n  - [posix-]locale\n",
        text "  - +FORMAT (e.g., +%H:%M) for a 'date'-style format"]

/-- what long lines are made with -/
structure Desk where
  tree : FileTree
  zone : Clock.Zone
  now : Calendar.Moment
  times : Times

def timeOf (d : Desk) (n : Node) : Bytes :=
  let moment := Clock.changed d.zone n
  let age := d.now.seconds - moment.seconds
  let isRecent := 0 ≤ age ∧ age < recentSpan
  moment.shown (if isRecent then d.times.2 else d.times.1)

/-- lines with all that is known of each name, in columns as wide as for all that was looked at with
them -/
def longLines (l : Listing) (d : Desk) (all es : List Entry) : List Bytes :=
  let known (f : Entry → Bytes) (e : Entry) : Bytes := if e.node.isSome then f e else unknown
  let count := known fun e => decimal (d.tree.linkCount e.id)
  let devices := all.filterMap Entry.device?
  let majors := widest (devices.map fun d => decimal d.1)
  let minors := widest (devices.map fun d => decimal d.2)
  let size := known fun e => match e.device? with
    | some (major, minor) =>
      right majors (decimal major) ++ [44, 32] ++ right minors (decimal minor)
    | none => text (l.sizes.shown e.size)
  let owner := known fun _ => if l.numbers then decimal 0 else text "root"
  let counts := widest (all.map count)
  let sizes := widest (all.map size)
  let owners := widest (all.map owner)
  let person (asked : Bool) (bs : Bytes) : Bytes :=
    if asked then (if l.numbers then right else left) owners bs ++ [32] else []
  let timeWidth := (d.now.shown d.times.2).length
  (es.zip ((l.frills all es).zip (l.names 0 all es))).map fun (e, frills, name) =>
    let mode := match e.node with
      | some n => Mode.shown n
      | none => 63 :: List.replicate 9 63
    let time := (e.node.map (timeOf d)).getD (right timeWidth unknown)
    let target := match e.node.map Node.content with
      | some (.link target) =>
        let mark := if l.marks = .kinds ∨ l.marks = .all then
            (e.goal.map l.mark).getD [] else []
        text " -> " ++ l.nameOf target ++ mark
      | some _ => (e.node.map l.mark).getD []
      | none => []
    frills ++ mode ++ [32] ++ right counts (count e) ++ [32] ++ person l.owner (owner e) ++
      person l.group (owner e) ++ (if l.context then [63, 32] else []) ++
      person l.author (owner e) ++ right sizes (size e) ++ 32 :: time ++ 32 :: name ++ target

end Listing
end JarLauncher.Tool
