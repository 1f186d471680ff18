import JarLauncher.Tool.Input
import JarLauncher.Tool.Sed.Script

/-! Text edited line by line as a script says. Lines are read as they are needed, so that a script
may end before its input does. -/

namespace JarLauncher.Tool

open Unix
open Shell (text newline)

namespace Sed

structure Choice where
  scripts : List Bytes := []
  quiet : Bool := false
  extended : Bool := false
  separate : Bool := false
  inPlace : Bool := false
  /-- what the name of the file as it was ends with, or where a star in it puts the name -/
  backup : Bytes := []
  nulEnded : Bool := false

/-- a text as it is edited -/
structure Editing where
  /-- operands that were not opened yet, the one that is open, and what was read of it -/
  operands : List Bytes
  current : Option (Bytes × Nat)
  buffer : Bytes
  number : Nat
  line : Bytes
  /-- the line had an end of its own -/
  ended : Bool
  held : Bytes
  changed : Bool
  /-- texts that follow the line, and files whose content does -/
  queue : List (Bytes ⊕ Bytes)
  /-- ranges that were entered: the command, and the line that ends it if that is known -/
  ranges : List (Nat × Option Nat)
  lastRegex : Option Regex
  /-- the output of a file that is edited in its place -/
  kept : List Bytes
  files : List (Bytes × Nat)
  failed : Bool

abbrev Edit := StateT Editing Work

def lineEnd (c : Choice) : UInt8 := if c.nulEnded then 0 else newline

def put (c : Choice) (bs : Bytes) : Edit Unit := do
  if c.inPlace then modify fun e => { e with kept := bs :: e.kept }
  else Work.put bs

def putLine (c : Choice) (bs : Bytes) (ended : Bool) : Edit Unit :=
  put c (bs ++ if ended then [lineEnd c] else [])

/-- the name of the file as it was -/
def backupName (ending name : Bytes) : Bytes :=
  if ending.contains 42 then
    let parts := Path.splitOn Path.slash name
    let last := ending.flatMap fun b => if b = 42 then parts.getLastD [] else [b]
    if last.contains Path.slash then last
    else (parts.dropLast.map (· ++ [Path.slash])).flatten ++ last
  else name ++ ending

/-- the file that is done with -/
def closeCurrent (c : Choice) : Edit Unit := do
  match (← get).current with
  | none => return
  | some (name, fd) =>
    if name ≠ Work.dash then Work.act (Act.close fd)
    if c.inPlace then
      let bs := ((← get).kept.reverse).flatten
      if c.backup ≠ [] then
        let _ ← Work.change fun t cwd => do
          t.rename cwd name (backupName c.backup name)
        let _ ← Work.change fun t cwd => t.putFile cwd name FileTree.fileMode ByteArray.empty
      let _ ← Work.change fun t cwd => do
        let n ← t.find cwd name
        t.putFile cwd name (t.node n).mode (Act.octets bs)
    modify fun e => { e with current := none, kept := [] }

/-- open the next operand that can be opened; false if there is none -/
def openNext (c : Choice) : Nat → Edit Bool
  | 0 => return false
  | fuel + 1 => do
    match (← get).operands with
    | [] => return false
    | x :: rest =>
      modify fun e => { e with operands := rest }
      let shown := if x = Work.dash then text "-" else x
      let isDir := (← Work.node? x) matches .ok ⟨.dir .., _, _⟩
      if isDir then
        if c.inPlace then Work.complain [text "couldn't edit ", shown, text ": not a regular file"]
        else Work.complain [text "couldn't read ", shown, text ": ", reason Errno.isDirectory]
        modify fun e => { e with failed := true }
        openNext c fuel
      else match ← Work.openOperand x with
        | .ok fd =>
          modify fun e => { e with
            current := some (x, fd)
            number := if c.separate then 0 else e.number }
          return true
        | .error err =>
          Work.complain [text "can't read ", shown, text ": ", reason err]
          modify fun e => { e with failed := true }
          openNext c fuel

/-- read on until there is a line in the buffer, or the input is at its end -/
def fill (c : Choice) : Nat → Edit Unit
  | 0 => return
  | fuel + 1 => do
    let e ← get
    if e.buffer.contains (lineEnd c) then return
    match e.current with
    | none =>
      if e.buffer ≠ [] then return
      if ← openNext c (e.operands.length + 1) then fill c fuel
    | some (_, fd) =>
      match ← Work.act (Act.read fd 4096) with
      | .ok piece =>
        if piece.isEmpty then
          if e.buffer ≠ [] then return
          if c.separate && !e.operands.isEmpty then return
          closeCurrent c
          fill c fuel
        else
          modify fun e => { e with buffer := e.buffer ++ piece.toList }
          fill c fuel
      | .error err =>
        let name := (e.current.map Prod.fst).getD []
        Work.complain [text "read error on ", name, text ": ", reason err]
        modify fun e => { e with failed := true }
        closeCurrent c
        fill c fuel

/-- the line that is edited is the last one -/
def isLast (c : Choice) : Edit Bool := do
  fill c Act.patience
  return (← get).buffer.isEmpty

/-- the next line; false if there is none -/
def nextLine (c : Choice) : Edit Bool := do
  fill c Act.patience
  if (← get).buffer.isEmpty then
    closeCurrent c
    fill c Act.patience
  let e ← get
  if e.buffer.isEmpty then
    closeCurrent c
    return false
  let (line, rest) := e.buffer.span (· ≠ lineEnd c)
  set { e with line := line, ended := rest ≠ [], buffer := rest.drop 1, number := e.number + 1 }
  return true

/-- the texts that were kept for the end of the line -/
def putQueue (c : Choice) : Edit Unit := do
  let e ← get
  set { e with queue := [] }
  for x in e.queue do
    match x with
    | .inl bs => put c bs
    | .inr name =>
      match ← Work.act (Act.openPath name Access.read) with
      | .error _ => pure ()
      | .ok fd =>
        match ← Work.readAll fd with
        | .ok data => put c data.toList
        | .error _ => pure ()
        Work.act (Act.close fd)

def regexOf (r : Option Regex) : Edit Regex := do
  match r with
  | some r =>
    modify fun e => { e with lastRegex := some r }
    return r
  | none =>
    match (← get).lastRegex with
    | some r => return r
    | none => Work.fail [text "no previous regular expression"]

def holds (c : Choice) (a : Address) : Edit Bool := do
  let e ← get
  match a with
  | .line n => return e.number = n
  | .last => isLast c
  | .pattern r => return ((← regexOf r).find? (Act.octets e.line) 0).isSome
  | .every first step =>
    return if step = 0 then e.number = first else first ≤ e.number && (e.number - first) % step = 0

def enter (i : Nat) (line : Option Nat) : Edit Unit :=
  modify fun e => { e with ranges := (i, line) :: e.ranges }

def leave (i : Nat) : Edit Unit :=
  modify fun e => { e with ranges := e.ranges.filter (·.1 ≠ i) }

/-- a command is for the line that is edited -/
def selects (c : Choice) (i : Nat) (s : Selector) : Edit Bool := do
  let e ← get
  match s.first, s.stop with
  | none, _ => return true
  | some a, none => holds c a
  | some a, some stop =>
    let starts : Option Nat := match a with
      | .line 0 => some 0
      | _ => none
    let inside := e.ranges.lookup i
    match inside, stop with
    | some (some last), _ =>
      if last ≤ e.number then leave i
      return e.number ≤ last
    | some none, .at_ b =>
      if ← holds c b then leave i
      return true
    | _, _ =>
      let entered ← if starts.isSome && e.number = 1 then pure true else holds c a
      if !entered then return false
      match stop with
      | .after n => if n ≠ 0 then enter i (some (e.number + n))
      | .multiple n => if n ≠ 0 && e.number % n ≠ 0 then enter i (some ((e.number / n + 1) * n))
      | .at_ (.line n) => if e.number < n then enter i (some n)
      | .at_ b =>
        let endsAtOnce ← if starts.isSome then holds c b
          else match b with
            | .last => isLast c
            | _ => pure false
        if !endsAtOnce then enter i none
      return true

/-- what comes of putting pieces in the place of matches -/
def substituted (r : Regex) (pieces : List Piece) (every_ : Bool) (nth : Nat) (input : ByteArray) :
    Nat → Nat → Nat → Bytes → Bool → Bytes × Bool
  | 0, _, _, done, did => (done, did)
  | fuel + 1, at_, count, done, did =>
    let rest := (input.extract at_ input.size).toList
    match if input.size < at_ then none else r.find? input at_ with
    | none => (done ++ rest, did)
    | some m =>
      let before := (input.extract at_ m.start).toList
      let count := count + 1
      let replaces := count = nth || (every_ && nth < count)
      let shown := if replaces then pieces.flatMap fun
          | .octets bs => bs
          | .group n => m.group input n
        else m.group input 0
      let done := done ++ before ++ shown
      let did := did || replaces
      if replaces ∧ !every_ then (done ++ (input.extract m.stop input.size).toList, did)
      else if m.stop = m.start then
        substituted r pieces every_ nth input fuel (m.stop + 1) count
          (done ++ (input.extract m.stop (m.stop + 1)).toList) did
      else
        -- nothing is matched again right behind a match
        match r.matchAt? input m.stop with
        | some again =>
          if again.stop = again.start ∧ m.stop < input.size then
            substituted r pieces every_ nth input fuel (m.stop + 1) count
              (done ++ (input.extract m.stop (m.stop + 1)).toList) did
          else if again.stop = again.start then (done, did)
          else substituted r pieces every_ nth input fuel m.stop count done did
        | none => substituted r pieces every_ nth input fuel m.stop count done did

/-- a line with its hidden octets escaped -/
def listed (bs : Bytes) : Bytes :=
  bs.flatMap fun b =>
    if b = 92 then [92, 92]
    else if b = 10 then [92, 110]
    else if Quoting.isPrintable b then [b] else 92 :: Quoting.escaped b

def writeFile (name bs : Bytes) : Edit Unit := do
  if name = text "/dev/stdout" then Work.put bs
  else if let some fd := (← get).files.lookup name then
    let _ ← Work.act (Act.put fd bs)

/-- what follows a command -/
inductive Then where
  | go (i : Nat)
  /-- the line is done, and shown unless that was turned off -/
  | done (shows : Bool)
  /-- the line is done, and the script starts again without reading one -/
  | again
  | quit (status : Nat) (shows : Bool)

def labelAt (cs : Array Command) (name : Bytes) : Nat :=
  (cs.findIdx? fun c => match c.action with
    | .label n => n = name
    | _ => false).getD cs.size

/-- carry out one command on the line -/
def perform (c : Choice) (cs : Array Command) (i : Nat) (s : Selector) (a : Action) :
    Edit Then := do
  let e ← get
  let onward := Then.go (i + 1)
  match a with
  | .block _ | .nothing | .label _ => return onward
  | .substitute r pieces every_ prints nth file =>
    let r ← regexOf r
    let input := Act.octets e.line
    let (line, did) := substituted r pieces every_ nth input (input.size + 2) 0 0 [] false
    if did then
      modify fun e => { e with line := line, changed := true }
      if prints then putLine c line e.ended
      if let some name := file then writeFile name (line ++ [newline])
    return onward
  | .transliterate pairs =>
    set { e with line := e.line.map fun b => (pairs.lookup b).getD b }
    return onward
  | .delete => return .done false
  | .deleteFirst =>
    if e.line.contains newline then
      set { e with line := (e.line.dropWhile (· ≠ newline)).drop 1 }
      return .again
    return .done false
  | .print =>
    putLine c e.line e.ended
    return onward
  | .printFirst =>
    putLine c (e.line.takeWhile (· ≠ newline)) true
    return onward
  | .number =>
    put c (Shell.decimal e.number ++ [newline])
    return onward
  | .list =>
    put c (listed e.line ++ [36, newline])
    return onward
  | .next =>
    if ← isLast c then return .quit 0 true
    if !c.quiet then putLine c e.line e.ended
    putQueue c
    let _ ← nextLine c
    return onward
  | .appendNext =>
    if ← isLast c then return .quit 0 true
    putQueue c
    let _ ← nextLine c
    modify fun e' => { e' with line := e.line ++ newline :: e'.line }
    return onward
  | .hold =>
    set { e with held := e.line }
    return onward
  | .appendHold =>
    set { e with held := e.held ++ newline :: e.line }
    return onward
  | .restore =>
    set { e with line := e.held }
    return onward
  | .appendRestore =>
    set { e with line := e.line ++ newline :: e.held }
    return onward
  | .exchange =>
    set { e with line := e.held, held := e.line }
    return onward
  | .append bs =>
    set { e with queue := e.queue ++ [Sum.inl bs] }
    return onward
  | .insert bs =>
    put c bs
    return onward
  | .change bs =>
    if s.stop.isNone || s.negated || (e.ranges.lookup i).isNone then put c bs
    return .done false
  | .branch name only =>
    let goes := only.all (e.changed == ·)
    if only.isSome then set { e with changed := false }
    return if goes then (if name = [] then .done true else .go (labelAt cs name)) else onward
  | .quit status quiet => return .quit status !quiet
  | .read name =>
    set { e with queue := e.queue ++ [Sum.inr name] }
    return onward
  | .write name =>
    writeFile name (e.line ++ [newline])
    return onward

/-- go through the script with one line -/
def script (c : Choice) (cs : Array Command) : Nat → Nat → Edit Then
  | 0, _ => return .done true
  | fuel + 1, i => do
    match cs[i]? with
    | none => return .done true
    | some command =>
      let isFor := (← selects c i command.selector) != command.selector.negated
      let onward ← match command.action, isFor with
        | .block close, false => pure (Then.go close)
        | _, false => pure (Then.go (i + 1))
        | action, true => perform c cs i command.selector action
      match onward with
      | .go i => script c cs fuel i
      | other => return other

/-- edit line after line; the answer is a status -/
def run (c : Choice) (cs : Array Command) : Nat → Bool → Edit Nat
  | 0, _ => return 0
  | fuel + 1, fresh => do
    if fresh then
      if !(← nextLine c) then return 0
      modify fun e => { e with changed := false }
    let finish (shows : Bool) : Edit Unit := do
      let e ← get
      if shows && !c.quiet then putLine c e.line e.ended
      putQueue c
    match ← script c cs Act.patience 0 with
    | .quit status shows =>
      if shows then finish true
      let e ← get
      if c.inPlace then put c e.buffer
      if let some (_, fd) := e.current then
        ({ fd := fd, held := Act.octets e.buffer : Source }).putBack
      closeCurrent c
      return status
    | .again =>
      putQueue c
      run c cs fuel false
    | .done shows =>
      finish shows
      run c cs fuel true
    | .go _ => run c cs fuel true

def menu : Menu :=
  { letters := "bsnrzuEe:f:l:i::V:"
    words := [flag "quiet" 'n', flag "silent" 'n', valued "expression" 'e', valued "file" 'f',
      flag "regexp-extended" 'E', flag "separate" 's', ⟨"in-place", .optional, 'i'⟩,
      flag "unbuffered" 'u', flag "null-data" 'z', flag "posix" 'p', flag "debug" 'p',
      flag "sandbox" 'p', flag "follow-symlinks" 'p', valued "line-length" 'l'] }

/-- a file cannot be opened, and all ends there -/
def noFile {α : Type} (path : Bytes) (e : Int) : Work α := do
  Work.complain [text "couldn't open file ", path, text ": ", reason e]
  throw 4

def usageLine : String :=
  "Usage: sed [OPTION]... \x7bscript-only-if-no-other-script\x7d [input-file]...\n\n"

def usage {α : Type} : Work α := do
  Work.say [text usageLine]
  throw 1

def take (c : Choice) (g : Given) : Work Choice := do
  let value := g.value.getD []
  match g.letter with
  | 'n' => return { c with quiet := true }
  | 'e' => return { c with scripts := c.scripts ++ [value] }
  | 'E' | 'r' => return { c with extended := true }
  | 's' => return { c with separate := true }
  | 'i' => return { c with inPlace := true, separate := true, backup := value }
  | 'z' => return { c with nulEnded := true }
  | 'f' =>
    match ← Work.openOperand value with
    | .error e => Sed.noFile value e
    | .ok fd =>
      match ← Work.readAll fd with
      | .error e => Work.fail [text "read error on ", value, text ": ", reason e]
      | .ok data =>
        let bs := data.toList
        return { c with scripts := c.scripts ++
          [if bs.getLast? = some newline then bs.dropLast else bs] }
  | _ => return c

end Sed

def sed : Routine := fun args => do
  modify fun d => { d with loss := ("couldn't flush stdout", 4) }
  let t := { Sed.menu with words := Sed.menu.words ++ common }.take args
  let c ← t.options.foldlM (fun c g => do
    if g.letter = '?' then throw 0
    Sed.take c g) { : Sed.Choice }
  if let some words := t.fault then
    Work.say ((← get).name :: text ": " :: words ++ [[newline]])
    Sed.usage
  let (scripts, operands) ← match c.scripts, t.operands with
    | [], [] => Sed.usage
    | [], s :: rest => pure ([s], rest)
    | scripts, rest => pure (scripts, rest)
  let whole := (scripts.intersperse [newline]).flatten
  match Sed.read? c.extended whole with
  | .error fault =>
    let place := match fault.left with
      | some n =>
        [text "-e expression #1, char ", Shell.decimal (whole.length - n), text ": "]
      | none => []
    let place := if fault.message = Regex.halfClass then [] else place
    Work.fail (place ++ [text fault.message])
  | .ok cs =>
    let names := cs.toList.filterMap fun x => match x.action with
      | .write name | .substitute _ _ _ _ _ (some name) => some name
      | _ => none
    let files ← names.eraseDups.filterMapM fun name => do
      match ← Work.act (Act.openPath name Access.write) with
      | .ok fd => return some (name, fd)
      | .error e => Sed.noFile name e
    let (status, e) ← (Sed.run c cs Act.patience true).run
      { operands := Work.orInput operands, current := none, buffer := [], number := 0, line := [],
        ended := true, held := [], changed := false, queue := [], ranges := [], lastRegex := none,
        kept := [], files := files, failed := false }
    throw (if status = 0 ∧ e.failed then 2 else status)

end JarLauncher.Tool
