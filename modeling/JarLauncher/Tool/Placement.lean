import JarLauncher.Tool.Transfer.Carry
import JarLauncher.Unix.Account

/-! Tools that put files where they are to be: files of new names, files put in place with their
permissions, and plain links. -/

namespace JarLauncher.Tool

open Unix
open Shell (text)

namespace Temporary

structure Choice where
  dir : Bool := false
  dry : Bool := false
  quiet : Bool := false
  suffix : Option Bytes := none
  /-- the directory to put it in; none if the environment says it -/
  base : Option (Option Bytes) := none
  /-- the template is only a name -/
  named : Bool := false

def take (c : Choice) (g : Given) : Work Choice :=
  return match g.letter with
    | 'd' => { c with dir := true }
    | 'u' => { c with dry := true }
    | 'q' => { c with quiet := true }
    | 's' => { c with suffix := g.value }
    | 'p' => { c with base := some g.value }
    | 't' => { c with base := some (c.base.join), named := true }
    | _ => c

/-- the sign in a template that stands for any other -/
def blank : UInt8 := 88

def signs : Bytes :=
  text "abcdefghijklmnopqrstuvwxyzABCDEFGHIJKLMNOPQRSTUVWXYZ0123456789"

/-- how a number is spread over all the numbers that names are made of -/
def spread (n : Nat) : Nat := (n + 1) * 6364136223846793005 + 1442695040888963407

/-- so many signs, made of a number -/
def signsOf : Nat → Nat → Bytes
  | 0, _ => []
  | count + 1, n => signs.getD (n % signs.length) 0 :: signsOf count (n / signs.length)

/-- a template taken apart: what is before the blanks, how many there are, and what is behind -/
def parts (c : Choice) (template : Bytes) : Bytes × Nat × Bytes :=
  let (body, suffix) := match c.suffix with
    | some suffix => (template, suffix)
    | none =>
      let back := template.reverse.takeWhile (· ≠ blank)
      if template.contains blank then (template.take (template.length - back.length), back.reverse)
      else (template, [])
  let count := (body.reverse.takeWhile (· = blank)).length
  (body.take (body.length - count), count, suffix)

def attempts : Nat := 100

/-- make a file or a directory of a new name -/
def makeFrom (c : Choice) (front : Bytes) (count : Nat) (suffix : Bytes) (seed : Nat) :
    Nat → Work (FileTree.Answer Bytes)
  | 0 => return .error Errno.alreadyExists
  | fuel + 1 => do
    let path := front ++ signsOf count (spread (seed + fuel)) ++ suffix
    let there ← idOf path false
    match there with
    | .ok _ => makeFrom c front count suffix seed fuel
    | .error e =>
      if c.dry then return .ok path
      if e ≠ Errno.noEntry then return .error e
      let refused ← if c.dir then Work.alter fun p s =>
          return s.withTree (← s.tree.mkdir (s.cwd p) path 0o700)
        else Work.alter fun p s => return (← s.newFile p path 0o600).2
      match refused with
      | none => return .ok path
      | some e => return .error e

end Temporary

def mktemp : Routine := fun args => do
  let (c, operands) ← Work.options { letters := "dp:qtuV", words := [flag "directory" 'd',
    flag "dry-run" 'u', flag "quiet" 'q', valued "suffix" 's', ⟨"tmpdir", .optional, 'p'⟩] } args
    { : Temporary.Choice } Temporary.take
  if 1 < operands.length then Work.misuse [text "too many templates"]
  let template := operands.headD (text "tmp.XXXXXXXXXX")
  let c := if operands.isEmpty && c.base.isNone then { c with base := some none } else c
  if c.suffix.isSome && template.getLast? ≠ some Temporary.blank then
    Work.fail [text "with --suffix, template ", Quoting.plain template, text " must end in X"]
  let (front, count, suffix) := Temporary.parts c template
  if suffix.contains Path.slash then
    Work.fail [text "invalid suffix ", Quoting.plain suffix, text ", contains directory separator"]
  if count < 3 then Work.fail [text "too few X's in template ", Quoting.plain template]
  let front ← match c.base with
    | none => pure front
    | some base => do
      let fromEnv := ((← get).env.lookup (text "TMPDIR")).filter (· ≠ [])
      let usual := fromEnv.getD (text "/tmp")
      let dir := if c.named then fromEnv.getD ((base.filter (· ≠ [])).getD (text "/tmp"))
        else (base.filter (· ≠ [])).getD usual
      if c.named && template.contains Path.slash then
        Work.fail [text "invalid template, ", Quoting.plain template,
          text ", contains directory separator"]
      if Path.isAbsolute template then
        Work.fail [text "invalid template, ", Quoting.plain template,
          text "; with --tmpdir, it may not be absolute"]
      pure (Path.join dir front)
  let seed ← Work.act (Act.ask fun p s => s.now * 65536 + p)
  match ← Temporary.makeFrom c front count suffix seed Temporary.attempts with
  | .ok path => Work.putLine path
  | .error e =>
    let shown := front ++ List.replicate count Temporary.blank ++ suffix
    let kind := if c.dir then "directory" else "file"
    if c.quiet then Work.failed
    else
      Work.fail [text ("failed to create " ++ kind ++ " via template "), Quoting.plain shown,
        text ": ", reason e]

/-- how files are put in place -/
structure Install extends Transfer where
  dirs : Bool := false
  makesParents : Bool := false
  /-- only what differs from what is there is copied -/
  compares : Bool := false
  strips_ : Bool := false
  stripProgram : Bool := false
  permissions : Option Bytes := none
  owner : Option Bytes := none
  group : Option Bytes := none

namespace Install

def take (how : Install) (g : Given) : Work Install := do
  match g.letter with
  | 'd' => return { how with dirs := true }
  | 'D' => return { how with makesParents := true }
  | 'C' => return { how with compares := true }
  | 's' => return { how with strips_ := true }
  | '$' => return { how with stripProgram := true }
  | 'm' => return { how with permissions := g.value }
  | 'o' => return { how with owner := g.value }
  | 'g' => return { how with group := g.value }
  | 'p' => return { how with keepsTimes := true }
  | '=' =>
    Work.complain [text "WARNING: ignoring --preserve-context; ",
      text "this kernel is not SELinux-enabled"]
    return how
  | _ => return { how with toTransfer := ← how.toTransfer.take g }

def menu : Menu :=
  { letters := "bcCsDdg:m:o:pt:TvS:Z"
    words := Transfer.words ++ [⟨"context", .optional, 'Z'⟩, flag "compare" 'C',
      flag "directory" 'd', valued "group" 'g', valued "mode" 'm', valued "owner" 'o',
      flag "preserve-timestamps" 'p', flag "preserve-context" '=', flag "strip" 's',
      valued "strip-program" '$'] }

/-- say that a directory is made -/
def announce (how : Install) (path : Bytes) : Work Unit := do
  if how.verbose then
    Work.putLine ((← get).name ++ text ": creating directory " ++ Quoting.always path)

/-- make the directories that a path leads through, as far as they are not there -/
def makeDirs (how : Install) (goal : Bytes) (paths : List Bytes) : Work Bool := do
  for path in paths do
    if !(← isDirPath path) then
      match ← makeDir path 0o755 with
      | none => how.announce path
      | some e =>
        let leadsOn : Bool := e = Errno.alreadyExists && path ≠ goal && (← Work.node? path).isOk
        Work.warn [text "cannot create directory ", Quoting.always path, text ": ",
          reason (if leadsOn then Errno.notDirectory else e)]
        return false
  return true

/-- the permissions that were asked for -/
def modeFor (how : Install) (isDir : Bool) : Work Nat := do
  match how.permissions with
  | none => return 0o755
  | some bs =>
    match Mode.read? bs with
    | some change => return change.apply 0 isDir 0
    | none => Work.fail [text "invalid mode ", Quoting.plain bs]

/-- what is there is what would be put there -/
def isThere (how : Install) (x goal : Bytes) : Work Bool := do
  match ← Work.node? x true, ← Work.node? goal false with
  | .ok a, .ok b =>
    match a.content, b.content with
    | .file m, .file n => return m == n && how.toTransfer.mode = some b.mode
    | _, _ => return false
  | _, _ => return false

def checkNames (how : Install) : Work Unit := do
  let isKnown (bs : Bytes) : Bool :=
    (Account.ofName? bs).isSome || (Shell.natOf? bs).isSome
  if let some bs := how.owner.filter fun bs => !isKnown bs then
    Work.fail [text "invalid user ", Quoting.plain bs]
  if let some bs := how.group.filter fun bs => !isKnown bs then
    Work.fail [text "invalid group ", Quoting.plain bs]

/-- say which options do not go together -/
def checkOptions (how : Install) : Work Unit := do
  if how.dirs && how.strips_ then
    Work.fail [text "the strip option may not be used when installing a directory"]
  if how.dirs && how.into.isSome then
    Work.fail [text "target directory not allowed when installing a directory"]

end Install

/-- a directory that files were to be put in cannot be reached -/
def badInstallTarget (how : Install) (sources : List Bytes) (dir : Bytes) (e : Int) :
    Work Goal := do
  if how.makesParents && e = Errno.noEntry then return .into dir sources
  Work.fail [text "failed to access ", Quoting.always dir, text ": ", reason e]

def install : Routine := fun args => do
  let (how, operands) ← Work.options Install.menu args { : Install } Install.take
  how.checkOptions
  if operands.isEmpty then Work.misuse [text "missing file operand"]
  let settled : Work Install := do
    let mode ← how.modeFor false
    if how.stripProgram && !how.strips_ then
      Work.complain [text "WARNING: ignoring --strip-program option as -s option was not specified"]
    if how.compares && how.keepsTimes then
      Work.misuse [text "options --compare (-C) and --preserve-timestamps are mutually exclusive"]
    if how.compares && how.strips_ then
      Work.misuse [text "options --compare (-C) and --strip are mutually exclusive"]
    how.checkNames
    let transfer ← how.toTransfer.settle
    return { how with
      toTransfer := { transfer with
        mode := some mode, following := some .always, removes := true } }
  let put (how : Install) (ledger : Ledger) (x goal : Bytes) : Work Ledger := do
    if how.compares then
      if ← how.isThere x goal then return ledger
    return (← (carry how.toTransfer (x, goal) deepest true .unknown [] x goal).run ledger).2
  if how.dirs then
    let how ← settled
    for x in operands do
      if ← how.makeDirs x (if x = [] then [x] else stages x) then
        let mode ← how.modeFor true
        amend x true fun n => { n with mode := mode }
  else
    match ← goalOf how.toTransfer operands (badInstallTarget how operands) with
    | .to x goal =>
      let how ← settled
      let clear ← if how.makesParents then how.makeDirs goal (stages goal).dropLast else pure true
      if clear then
        let _ ← put how {} x goal
    | .into dir sources =>
      let how ← settled
      let mut ledger : Ledger := { tracks := true }
      let clear ← if how.makesParents then how.makeDirs dir (stages dir) else pure true
      if clear then
        for x in sources do
          ledger ← put how ledger x (Path.join dir (baseOf x))

def link : Routine := fun args => do
  let (_, operands) ← Work.flags { letters := "" } args
  match operands with
  | [] => Work.missingOperand
  | [x] => Work.misuse [text "missing operand after ", Quoting.plain x]
  | [x, goal] =>
    if let some e ← Work.change fun t cwd => t.hardLink cwd x goal then
      Work.fail [text "cannot create link ", Quoting.always goal, text " to ", Quoting.always x,
        text ": ", reason e]
  | _ :: _ :: extra :: _ => Work.extraOperand extra

def unlink : Routine := fun args => do
  let (_, operands) ← Work.flags { letters := "" } args
  match operands with
  | [] => Work.missingOperand
  | [x] =>
    if let some e ← Work.change fun t cwd => t.unlink cwd x then
      Work.fail [text "cannot unlink ", Quoting.always x, text ": ", reason e]
  | _ :: extra :: _ => Work.extraOperand extra

end JarLauncher.Tool
