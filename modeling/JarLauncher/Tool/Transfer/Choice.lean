import JarLauncher.Tool.Transfer.Backup

/-! How files are moved, copied or put in place, as options say it; and where operands go. -/

namespace JarLauncher.Tool

open Unix
open Shell (text)

/-- what becomes of a file that is in the way -/
inductive Clash where
  | replace
  | ask
  /-- it stays, and that is a failure -/
  | refuse
  /-- it stays -/
  | skip
  deriving DecidableEq

/-- which links are followed -/
inductive Following where
  | never
  | operands
  | always
  deriving DecidableEq

/-- what a goal is made as -/
inductive Means where
  | copy
  | hardLink
  | symbolicLink
  deriving DecidableEq

/-- when older files are replaced -/
inductive Update where
  | all
  | none
  | older
  deriving DecidableEq

structure Transfer where
  clash : Clash := .replace
  /-- the goal is made room for if it cannot be opened -/
  force : Bool := false
  /-- the goal is made room for in any case -/
  removes : Bool := false
  means : Means := .copy
  recursive : Bool := false
  following : Option Following := none
  /-- what is read from special files is copied, and not what they are -/
  contents : Bool := false
  /-- only that a file is there, and what is said about it -/
  bare : Bool := false
  keepsMode : Bool := false
  keepsTimes : Bool := false
  keepsLinks : Bool := false
  /-- permissions are those of new files -/
  resetsMode : Bool := false
  /-- the permissions of all that is made -/
  mode : Option Nat := none
  /-- only what is newer is taken -/
  update : Bool := false
  verbose : Bool := false
  debug : Bool := false
  backs : Bool := false
  backupWord : Option Bytes := none
  suffixSaid : Option Bytes := none
  /-- the way in which what is in the way is kept -/
  backup : Option Backup := none
  suffix : Bytes := []
  into : Option Bytes := none
  /-- the goal is a path itself, even if a directory is there -/
  exact : Bool := false
  /-- paths lose the slashes at their ends -/
  strips : Bool := false
  /-- paths are made below the goal as they are -/
  parents : Bool := false
  clones : Bool := false

namespace Transfer

/-- what about files is kept or not -/
inductive Aspect where
  | mode
  | timestamps
  | ownership
  | links
  | context
  | xattr
  | all
  deriving DecidableEq

def aspects : List (String × Aspect) :=
  [("mode", .mode), ("timestamps", .timestamps), ("ownership", .ownership), ("links", .links),
   ("context", .context), ("xattr", .xattr), ("all", .all)]

/-- keep an aspect of files, or do not -/
def keep (how : Transfer) (on : Bool) : Aspect → Transfer
  | .mode => { how with keepsMode := on, resetsMode := !on }
  | .timestamps => { how with keepsTimes := on }
  | .links => { how with keepsLinks := on }
  | .all =>
    { how with keepsMode := on, keepsTimes := on, keepsLinks := on, resetsMode := !on }
  | _ => how

/-- keep the aspects that a list names -/
def keepAll (how : Transfer) (on : Bool) (list : Bytes) : Work Transfer := do
  let option := if on then "--preserve" else "--no-preserve"
  (Path.splitOn 44 list).foldlM (fun how word =>
    return how.keep on (← Work.choose option aspects word)) how

def updates : List (String × Update) := [("all", .all), ("none", .none), ("older", .older)]

/-- say what is replaced, unless it was said that nothing is -/
def updateAs (how : Transfer) (word : Option Bytes) (settled : Clash) : Work Transfer := do
  match word with
  | none => return { how with update := true }
  | some word =>
    if how.clash = settled then return how
    match ← Work.choose "--update" updates word with
    | .all => return { how with update := false, clash := .replace }
    | .none => return { how with update := false, clash := .skip }
    | .older => return { how with update := true, clash := .replace }

/-- the options that all tools of the kind know -/
def take (how : Transfer) (g : Given) : Work Transfer := do
  match g.letter with
  | 'b' => return { how with backs := true, backupWord := g.value <|> how.backupWord }
  | 'S' => return { how with backs := true, suffixSaid := g.value }
  | 't' =>
    if how.into.isSome then Work.fail [text "multiple target directories specified"]
    return { how with into := g.value }
  | 'T' => return { how with exact := true }
  | 'v' => return { how with verbose := true }
  | '%' => return { how with verbose := true, debug := true }
  | '/' => return { how with strips := true }
  | 'Z' =>
    if g.value.isSome then
      Work.complain [text "warning: ignoring --context; it requires an SELinux-enabled kernel"]
    return how
  | _ => return how

/-- settle how files that are in the way are kept -/
def settle (how : Transfer) : Work Transfer := do
  return { how with
    backup := ← if how.backs then Backup.asked how.backupWord else pure none
    suffix := ← Backup.suffix how.suffixSaid }

/-- words of options that all tools of the kind know -/
def words : List LongName :=
  [⟨"backup", .optional, 'b'⟩, flag "debug" '%', flag "no-target-directory" 'T',
   valued "suffix" 'S', valued "target-directory" 't', flag "verbose" 'v']

end Transfer

/-- is there a directory to put files in? -/
def checkDir (path : Bytes) (follow : Bool := true) : Work (Option Int) := do
  match ← Work.node? path follow with
  | .error e => return some e
  | .ok n => return if n.content.isDir then none else some Errno.notDirectory

/-- where operands go: into a directory, or one of them to a path -/
inductive Goal where
  | into (dir : Bytes) (sources : List Bytes)
  | to (source goal : Bytes)

/-- say what of a goal is missing or too much -/
def checkOperands (how : Transfer) (operands : List Bytes) : Work Unit := do
  match operands with
  | [] => Work.misuse [text "missing file operand"]
  | [x] =>
    if how.into.isNone then
      Work.misuse [text "missing destination file operand after ", Quoting.always x]
  | _ => return

/-- Where operands go; `badInto` complains of a directory that was said in front of them, and it is
known whether the last of two can be one. -/
def goalOf (how : Transfer) (operands : List Bytes) (badInto : Bytes → Int → Work Goal) :
    Work Goal := do
  checkOperands how operands
  match how.into, operands with
  | some dir, sources =>
    if how.exact then
      Work.fail [text "cannot combine --target-directory (-t) and --no-target-directory (-T)"]
    match ← checkDir dir with
    | none => return .into dir sources
    | some e => badInto dir e
  | none, sources =>
    let last := sources.getLastD []
    if how.exact then
      if let some extra := sources[2]? then
        Work.misuse [text "extra operand ", Quoting.always extra]
      return .to (sources.headD []) last
    match ← checkDir last with
    | none => return .into last sources.dropLast
    | some e =>
      if 2 < sources.length then
        Work.fail [text "target ", Quoting.always last, text ": ", reason e]
      return .to (sources.headD []) last

/-- a directory that files were to be put in is none -/
def badTarget (dir : Bytes) (e : Int) : Work Goal :=
  Work.fail [text "target directory ", Quoting.always dir, text ": ", reason e]

/-- a path without slashes at its end -/
def unslashed (path : Bytes) : Bytes :=
  match path.reverse.dropWhile (· = Path.slash) with
  | [] => path.take 1
  | signs => signs.reverse

end JarLauncher.Tool
