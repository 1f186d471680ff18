import JarLauncher.Tool.Listing.Columns
import JarLauncher.Tool.Transfer.Backup

/-! Lists of files and of what directories hold. -/

namespace JarLauncher.Tool

open Unix
open Shell (text newline decimal)

namespace Listing

def usualWidth : Nat := 80

def usualTab : Nat := 8

/-- list names that were looked at with others -/
def putEntries (l : Listing) (all es : List Entry) : Work Unit := do
  let putEach (lines : List Bytes) : Work Unit := lines.forM fun x => Work.put (x ++ [l.ending])
  let lineWidth := l.width.getD usualWidth
  let tab := l.tab.getD usualTab
  if es.isEmpty then return
  if l.isLong then
    let z ← Clock.zone
    putEach (l.longLines ⟨← Work.act Act.tree, z, ← Clock.now z, ← l.times⟩ all es)
  else
    let seen := es.zip ((l.frills all es).zip (l.names lineWidth all es))
    let cells := seen.map fun (e, frills, name) =>
      let signs := frills ++ name ++ (e.node.map l.mark).getD []
      (⟨signs, widthOf signs⟩ : Cell)
    match l.shape with
    | .columns | .across =>
      if lineWidth = 0 then Work.put (separated 32 l.ending 0 cells ++ [l.ending])
      else putEach (inColumns cells (l.shape = .across) lineWidth tab)
    | .commas => Work.put (separated 44 l.ending lineWidth cells ++ [l.ending])
    | _ => putEach (cells.map Cell.signs)

/-- look at a name: at what it leads to, or at itself -/
def look (path name : Bytes) (follow : Bool) : Work (FileTree.Answer Entry) := do
  match ← idOf path follow with
  | .error e => return .error e
  | .ok n =>
    let t ← Work.act Act.tree
    let goal ← if (t.content n).isLink then do
        pure ((← idOf path true).toOption.map t.node)
      else pure none
    return .ok ⟨name, n, some (t.node n), goal⟩

/-- something is wrong with a name; it counts more if it was asked for -/
def complain (words : List Bytes) (e : Int) (asked : Bool) : Work Unit := do
  Work.complain (words ++ [text ": ", reason e])
  modify fun d => { d with status := if asked ∨ d.status = 2 then 2 else 1 }

/-- look at an operand -/
def operand? (l : Listing) (x : Bytes) : Work (Option Entry) := do
  let direct ← look x x (x.getLast? = some Path.slash)
  let answer ← match l.following with
    | .never => pure direct
    | .always | .operands => look x x true
    | .toDirs =>
      match ← look x x true with
      | .ok e => pure (if e.isDir then .ok e else direct)
      | .error e => pure (if e = Errno.noEntry then direct else .error e)
  match answer with
  | .ok e => return some e
  | .error e =>
    complain [text "cannot access ", Quoting.always x] e true
    return none

/-- must a link that a directory holds be looked at, or is it enough that it is one? -/
def looksAtLinks (l : Listing) : Bool :=
  l.isLong || l.context || l.blocks || l.order = .time || l.order = .size || l.dirsFirst ||
    (l.following = .always && (l.inodes || l.recursive || l.marks ≠ .none))

/-- what a directory holds, as far as it is to be shown -/
def held (l : Listing) (path : Bytes) (n : FileTree.Id) : Work (List Entry) := do
  let t ← Work.act Act.tree
  let all := [(Path.here, n), (Path.up, t.parent n)] ++ t.entries n
  let mut es := []
  for (name, id) in all.filter fun e => l.shows e.1 do
    let node := t.node id
    let e ← if !node.content.isLink || !l.looksAtLinks then pure ⟨name, id, some node, none⟩
      else
        let full := if path = Path.here then name else Path.join path name
        match ← look full name (l.following = .always) with
        | .ok e => pure e
        | .error e =>
          complain [text "cannot access ", Quoting.always full] e false
          pure ⟨name, id, none, none⟩
    es := es ++ [e]
  return l.inOrder es

/-- a directory with its heading; below it the directories in it, if that is asked for -/
def putDir (l : Listing) (headed : Bool) : Nat → Bool → Bytes → FileTree.Id → Work Unit
  | 0, _, _, _ => return
  | fuel + 1, first, path, n => do
    let es ← l.held path n
    if headed then
      Work.put ((if first then [] else [newline]) ++ l.headingOf path ++ [58, newline])
    if l.isLong || l.blocks then
      let room := (es.map Entry.room).foldl (· + ·) 0
      Work.put (text ("total " ++ l.blockScale.shown room) ++ [l.ending])
    l.putEntries es es
    if l.recursive then
      for e in es do
        if e.isDir && !FileTree.isDots e.name then
          putDir l true fuel false (Path.join path e.name) e.id

end Listing

/-- list with the choice that it starts from -/
def listWith (start : Listing) : Routine := fun args => do
  let (l, operands) ← Work.options Listing.menu args start Listing.take
  let l ← l.fromEnvironment
  if l.isLong then let _ ← l.times
  let mut found : List Listing.Entry := []
  for x in if operands.isEmpty then [Path.here] else operands do
    if let some e ← l.operand? x then found := found ++ [e]
  let isDir (e : Listing.Entry) : Bool := e.isDir && !l.themselves
  let (dirs, files) := (l.inOrder found).partition isDir
  l.putEntries found files
  let headed := l.recursive || 1 < operands.length || !files.isEmpty
  for (e, i) in dirs.zipIdx do
    l.putDir headed deepest (i = 0 && files.isEmpty) e.name e.id

def ls : Routine := listWith {}

def dir : Routine := listWith { usual := .columns, usualStyle := .escape }

def vdir : Routine := listWith { usual := .long, usualStyle := .escape }

end JarLauncher.Tool
