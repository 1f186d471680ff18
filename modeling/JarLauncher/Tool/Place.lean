import JarLauncher.Tool.Date
import JarLauncher.Tool.Mode
import JarLauncher.Tool.Option

/-! Tools that make and remove files and directories, and change what is said about them. -/

namespace JarLauncher.Tool

open Unix
open Shell (text)

/-- more components than a path has -/
def deepest : Nat := 2048

/-- change the system by an operation that may be refused -/
def Work.alter (f : Pid → System → FileTree.Answer System) : Work (Option Int) :=
  Work.act (Act.call fun p s =>
    match f p s with
    | .ok s => (none, s.notice)
    | .error e => (some e, s))

/-- what is permitted on all that a process makes -/
def Work.mask : Work Nat := Work.act (Act.ask fun p s => s.mask p)

def makeDir (path : Bytes) (mode : Nat) : Work (Option Int) := Work.alter fun p s =>
  return s.withTree (← s.tree.mkdir (s.cwd p) path (s.permitted p mode))

def isDirPath (path : Bytes) : Work Bool := do
  match ← Work.node? path with
  | .ok n => return n.content.isDir
  | .error _ => return false

/-- the paths that a path leads through, the shortest first -/
def stages (path : Bytes) : List Bytes :=
  let comps := (Path.bare path).1
  let start : Bytes := if Path.isAbsolute path then [Path.slash] else []
  (List.range comps.length).map fun i =>
    start ++ ((comps.take (i + 1)).intersperse [Path.slash]).flatten

structure NewDir where
  parents : Bool := false
  verbose : Bool := false
  mode : Option Bytes := none

/-- the permissions that were asked for -/
def readMode (said : Option Bytes) : Work (Option Mode.Change) := do
  let some said := said | return none
  match Mode.read? said with
  | some change => return some change
  | none => Work.fail [text "invalid mode ", Quoting.plain said]

/-- a label that nothing here goes by -/
def warnOfContext (g : Given) : Work Unit := do
  if g.value.isSome then
    Work.complain [text "warning: ignoring --context; ",
      text "it requires an SELinux/SMACK-enabled kernel"]

def createdDir (how : NewDir) (path : Bytes) : Work Unit := do
  if how.verbose then
    Work.putLine ((← get).name ++ text ": created directory " ++ Quoting.always path)

def mkdir : Routine := fun args => do
  let (how, operands) ← Work.options { letters := "pm:vZ", words := [flag "parents" 'p',
      valued "mode" 'm', flag "verbose" 'v', ⟨"context", .optional, 'Z'⟩] } args { : NewDir }
    fun how g => do match g.letter with
      | 'p' => return { how with parents := true }
      | 'v' => return { how with verbose := true }
      | 'm' => return { how with mode := g.value }
      | _ =>
        warnOfContext g
        return how
  if operands.isEmpty then Work.missingOperand
  let mode ← readMode how.mode
  let refuse (path : Bytes) (e : Int) : Work Unit :=
    Work.warn [text "cannot create directory ", Quoting.always path, text ": ", reason e]
  for x in operands do
    let mut clear := true
    if how.parents then
      for stage in (stages x).dropLast do
        if clear && !(← isDirPath stage) then
          match ← makeDir stage 0o777 with
          | none => createdDir how stage
          | some e =>
            clear := false
            let leadsOn : Bool := e = Errno.alreadyExists && (← Work.node? stage).isOk
            refuse stage (if leadsOn then Errno.notDirectory else e)
    if clear then
      match ← makeDir x 0o777 with
      | none =>
        createdDir how x
        if let some change := mode then
          let _ ← Work.change fun t cwd => return t.modify (← t.find cwd x) fun n =>
            { n with mode := change.apply 0 true 0o777 }
      | some e =>
        if !(how.parents && e = Errno.alreadyExists && (← isDirPath x)) then refuse x e

def rmdir : Routine := fun args => do
  let menu : Menu :=
    { letters := "pv"
      words := [flag "parents" 'p', flag "verbose" 'v', flag "ignore-fail-on-non-empty" 'i'] }
  let (on, operands) ← Work.flags menu args
  if operands.isEmpty then Work.missingOperand
  for x in operands do
    let mut clear := true
    for path in x :: if on.contains 'p' then (stages x).reverse.drop 1 else [] do
      if clear then
        if on.contains 'v' then
          Work.putLine ((← get).name ++ text ": removing directory, " ++ Quoting.always path)
        if let some e ← Work.change fun t cwd => t.rmdir cwd path then
          clear := false
          if !(on.contains 'i' && e = Errno.notEmpty) then
            let what := if path = x then "failed to remove " else "failed to remove directory "
            Work.warn [text what, Quoting.always path, text ": ", reason e]

/-- make a file that is not there, or note that it was changed -/
structure Touch where
  makes : Bool := true
  /-- only the time that is told is changed, and not when files were last read -/
  isChange : Bool := false
  isUse : Bool := false
  /-- links themselves are meant -/
  atLinks : Bool := false
  /-- the time as words say it, and as digits do -/
  said : Option Bytes := none
  stamp : Option Bytes := none
  like : Option Bytes := none

/-- The moment that digits say: a month, a day, an hour and a minute, of this year if no other is
said in front of them, and maybe seconds behind a point. -/
def stampMoment? (now : Calendar.Moment) (bs : Bytes) : Option Int := do
  let (digits, rest) := bs.span Shell.isDigit
  let seconds ← match rest with
    | [] => some 0
    | [46, a, b] => Shell.natOf? [a, b]
    | _ => none
  let year : Int ← match digits.length with
    | 8 => some now.date.year
    | 10 =>
      let n := Shell.natOf (digits.take 2)
      some (n + if n < 69 then 2000 else 1900 : Nat)
    | 12 => some (Shell.natOf (digits.take 4))
    | _ => none
  let digits := digits.drop (digits.length - 8)
  let part (i : Nat) : Nat := Shell.natOf ((digits.drop (2 * i)).take 2)
  let month := part 0
  let day := part 1
  if month = 0 ∨ 12 < month ∨ day = 0 ∨ Calendar.monthLength year month < day ∨ 23 < part 2 ∨
      59 < part 3 ∨ 59 < seconds then none
  let moment : Calendar.Moment :=
    { now with
      date := ⟨year, month, day⟩, hour := part 2, minute := part 3, second := seconds }
  return moment.seconds

/-- the time to set, if it is not the present one -/
def Touch.time (how : Touch) : Work (Option Nat) := do
  let invalid (bs : Bytes) : Work (Option Nat) :=
    Work.fail [text "invalid date format ", Quoting.always bs]
  if how.stamp.isSome && (how.said.isSome || how.like.isSome) then
    Work.misuse [text "cannot specify times from more than one source"]
  let z ← Clock.zone
  let like ← match how.like with
    | none => pure none
    | some path =>
      match ← Work.node? path with
      | .ok n => pure (some n)
      | .error e =>
        Work.fail [text "failed to get attributes of ", Quoting.always path, text ": ", reason e]
  let now ← Clock.now z
  match how.said, how.stamp with
  | some bs, _ =>
    match Calendar.read? ((like.map (Clock.changed z)).getD now) bs with
    | some (seconds, nanos) => return some (System.ticksAt seconds nanos)
    | none => invalid bs
  | none, some bs =>
    match stampMoment? now bs with
    | some seconds => return some (System.ticksAt seconds 0)
    | none => invalid bs
  | none, none => return like.map (·.changed)

def touch : Routine := fun args => do
  let menu : Menu :=
    { letters := "acd:fhmr:t:"
      words := [flag "no-create" 'c', valued "date" 'd', valued "reference" 'r', valued "time" 'T',
        flag "no-dereference" 'h'] }
  let times := [("atime", false), ("access", false), ("use", false), ("mtime", true),
    ("modify", true)]
  let (how, operands) ← Work.options menu args { : Touch } fun how g => do
    match g.letter with
    | 'c' => return { how with makes := false }
    | 'd' => return { how with said := g.value }
    | 't' => return { how with stamp := g.value }
    | 'r' => return { how with like := g.value }
    | 'a' => return { how with isUse := true }
    | 'm' => return { how with isChange := true }
    | 'h' => return { how with atLinks := true }
    | 'T' =>
      if ← Work.choose "--time" times (g.value.getD []) then
        return { how with isChange := true }
      else return { how with isUse := true }
    | _ => return how
  let time ← how.time
  if operands.isEmpty then Work.misuse [text "missing file operand"]
  for x in operands do
    let refused ← Work.alter fun p s =>
      let mark (s : System) (n : FileTree.Id) : System :=
        if how.isUse && !how.isChange then s
        else s.withTree (s.tree.modify n fun old => { old with changed := time.getD s.tree.now })
      match s.find p x (!how.atLinks) with
      | .ok n => .ok (mark s n)
      | .error e =>
        if e ≠ Errno.noEntry then .error e
        else if !how.makes then .ok s
        else if how.atLinks then .error e
        else do
          let (n, s) ← s.newFile p x 0o666
          return mark s n
    if let some e := refused then
      if x.getLast? = some Path.slash || how.atLinks then
        let e := if e = Errno.isDirectory then Errno.noEntry else e
        Work.warn [text "setting times of ", Quoting.always x, text ": ", reason e]
      else Work.warn [text "cannot touch ", Quoting.always x, text ": ", reason e]

/-- all paths from one down -/
def allBelow (t : FileTree) : Nat → Bytes → FileTree.Id → List (Bytes × FileTree.Id)
  | 0, path, n => [(path, n)]
  | fuel + 1, path, n =>
    (path, n) :: (t.entries n).flatMap fun e => allBelow t fuel (Path.join path e.1) e.2

structure Chmod where
  recursive : Bool := false
  verbose : Bool := false
  changes : Bool := false
  quiet : Bool := false
  like : Option Bytes := none
  /-- nothing is done to all that there is -/
  sparesRoot : Bool := false

/-- an argument that says a change and looks like options -/
def isDashedMode (arg : Bytes) : Bool :=
  match arg with
  | 45 :: b :: rest =>
    b ≠ 45 && (b :: rest).all fun b => "rwxXstugoa+-=,01234567".toList.contains (Shell.chr b)
  | _ => false

def chmodAt (how : Chmod) (change : Mode.Change) (mask : Nat) (dashed : Bool) (path : Bytes)
    (n : FileTree.Id) : Work Unit := do
  let (before, after, wanted) ← Work.act (Act.call fun _ s =>
    let old := s.tree.node n
    let after := change.apply mask old.content.isDir old.mode
    ((old.mode, after, change.apply 0 old.content.isDir old.mode),
      (s.withTree (s.tree.modify n fun old => { old with mode := after })).notice))
  if how.verbose || (how.changes && before ≠ after) then
    let shown (m : Nat) : Bytes := Mode.octal4 m ++ text " (" ++ Mode.show_ m ++ text ")"
    Work.putLine (if before = after then
        text "mode of " ++ Quoting.always path ++ text " retained as " ++ shown before
      else text "mode of " ++ Quoting.always path ++ text " changed from " ++ shown before ++
        text " to " ++ shown after)
  if dashed && after ≠ wanted then
    Work.warn [Quoting.name path, text ": new permissions are ", Mode.show_ after, text ", not ",
      Mode.show_ wanted]

def chmod : Routine := fun args => do
  let dashed := args.filter isDashedMode
  let (how, operands) ← Work.options { letters := "Rcfv", words := [flag "recursive" 'R',
      flag "changes" 'c', flag "quiet" 'f', flag "silent" 'f', flag "verbose" 'v',
      flag "no-preserve-root" 'N', flag "preserve-root" 'P', valued "reference" 'r'] }
    (args.filter fun a => !isDashedMode a) { : Chmod } fun how g => return match g.letter with
      | 'R' => { how with recursive := true }
      | 'c' => { how with changes := true }
      | 'f' => { how with quiet := true }
      | 'v' => { how with verbose := true }
      | 'N' => { how with sparesRoot := false }
      | 'P' => { how with sparesRoot := true }
      | _ => { how with like := g.value }
  let (spelling, operands) ← match dashed, how.like, operands with
    | [], none, spelling :: rest => pure (some spelling, rest)
    | [], none, [] => Work.missingOperand
    | [], some _, rest => pure (none, rest)
    | ds, _, rest => pure (some (ds.intersperse [44]).flatten, rest)
  if operands.isEmpty then
    match spelling with
    | some spelling => Work.misuse [text "missing operand after ", Quoting.plain spelling]
    | none => Work.missingOperand
  let change : Mode.Change ← match spelling, how.like with
    | none, some path =>
      match ← Work.node? path with
      | .ok n => pure (.absolute n.mode)
      | .error e => Work.fail [text "failed to get attributes of ", Quoting.always path, text ": ",
          reason e]
    | spelling, _ =>
      match Mode.read? (spelling.getD []) with
      | some change => pure change
      | none => Work.misuse [text "invalid mode: ", Quoting.plain (spelling.getD [])]
  let mask ← Work.mask
  for x in operands do
    match ← Work.act (Act.ask fun p s => s.find p x) with
    | .error e =>
      Work.failed
      if !how.quiet then
        Work.complain [text "cannot access ", Quoting.always x, text ": ", reason e]
    | .ok n =>
      let t ← Work.act Act.tree
      if how.recursive && how.sparesRoot && n = FileTree.root then
        Work.warn ([text "it is dangerous to operate recursively on ", Quoting.always x] ++
          if x = [Path.slash] then [] else [text " (same as '/')"])
        Work.complain [text "use --no-preserve-root to override this failsafe"]
        continue
      let all := if how.recursive then
          (allBelow t deepest x n).filter fun e => !(t.content e.2).isLink
        else [(x, n)]
      for (path, n) in all do
        chmodAt how change mask (!dashed.isEmpty) path n

/-- make a pipe of a name -/
def makePipe (mode : Option Mode.Change) (path : Bytes) : Work (Option Int) :=
  Work.alter fun p s => do
    let place ← s.tree.place (s.cwd p) path
    let mode := match mode with
      | some change => change.apply 0 false 0o666
      | none => s.permitted p 0o666
    let (_, t) ← s.tree.create place (.pipe ByteArray.empty 0) mode
    return s.withTree t

def mkfifo : Routine := fun args => do
  let (mode, operands) ← Work.options { letters := "m:Z", words := [valued "mode" 'm',
      ⟨"context", .optional, 'Z'⟩] } args (none : Option Bytes) fun mode g => do
    if g.letter = 'm' then return g.value
    warnOfContext g
    return mode
  if operands.isEmpty then Work.missingOperand
  let mode ← mode.mapM fun said => do
    match Mode.read? said with
    | some change => return change
    | none => Work.fail [text "invalid mode"]
  for x in operands do
    if let some e ← makePipe mode x then
      Work.warn [text "cannot create fifo ", Quoting.always x, text ": ", reason e]

/-- a pipe of a name; devices are there already -/
def mknod : Routine := fun args => do
  let (mode, operands) ← Work.options { letters := "m:Z", words := [valued "mode" 'm',
      ⟨"context", .optional, 'Z'⟩] } args (none : Option Bytes) fun mode g => do
    if g.letter = 'm' then return g.value
    warnOfContext g
    return mode
  let mode ← mode.mapM fun said => do
    match Mode.read? said with
    | some change => return change
    | none => Work.fail [text "invalid mode"]
  let isPipe : Bool := operands.isEmpty || operands[1]?.any fun kind => kind.head? = some 112
  let count := if isPipe then 2 else 4
  let refuse (words : List Bytes) (hint : String) (odd : Bool) : Work Unit := do
    Work.complain words
    if odd then Work.say [text hint]
    Work.usage
  if operands.isEmpty then Work.missingOperand
  if operands.length < count then
    refuse [text "missing operand after ", Quoting.plain (operands.getLastD [])]
      "Special files require major and minor device numbers.\n" (count = 4 && operands.length = 2)
  if let some extra := operands[count]? then
    refuse [text "extra operand ", Quoting.plain extra]
      "Fifos do not have major and minor device numbers.\n" (count = 2 && operands.length = 4)
  let kind := operands.getD 1 []
  if isPipe then
    let path := operands.headD []
    if let some e ← makePipe mode path then Work.fail [Quoting.name path, text ": ", reason e]
  else if !([98, 99, 117] : Bytes).contains (kind.headD 0) then
    Work.misuse [text "invalid device type ", Quoting.plain kind]

/-- characters that any system takes in a name -/
def isPortable (b : UInt8) : Bool :=
  Shell.isNameChar b || b == Path.slash || b == Path.dot || b == 45

/-- what is wrong with a path, for this system or for any -/
def pathFault (strict plain : Bool) (x : Bytes) : Work (Option (List Bytes)) := do
  let dashed := (Path.bare x).1.any fun c => c.head? = some 45
  if plain && dashed then
    return some [text "leading '-' in a component of file name ", Quoting.always x]
  if (strict || plain) && x = [] then return some [text "empty file name"]
  let tooLong (limit length : Nat) (what : String) (name : Bytes) : List Bytes :=
    [text "limit ", Shell.decimal limit, text " exceeded by length ", Shell.decimal length,
      text (" of file name" ++ what), Quoting.always name]
  if strict then
    if let some b := x.find? fun b => !isPortable b then
      return some [text "non-portable character ", Quoting.plain [b], text " in file name ",
        Quoting.always x]
    if 255 < x.length then return some (tooLong 255 x.length " " x)
    if let some c := (Path.bare x).1.find? fun c => 14 < c.length then
      return some (tooLong 14 c.length " component " c)
    return none
  match ← Work.node? x false with
  | .ok _ => return none
  | .error e =>
    if e = Errno.noEntry ∧ x ≠ [] then return none
    return some [Quoting.name x, text ": ", reason e]

/-- look whether paths can be used -/
def pathchk : Routine := fun args => do
  let menu : Menu :=
    { letters := "pP", words := [flag "portability" 'A'], ordered := true }
  let (on, operands) ← Work.flags menu args
  if operands.isEmpty then Work.missingOperand
  let strict := on.contains 'p' || on.contains 'A'
  let plain := on.contains 'P' || on.contains 'A'
  for x in operands do
    if let some words ← pathFault strict plain x then Work.warn words

end JarLauncher.Tool
