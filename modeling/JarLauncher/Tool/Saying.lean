import JarLauncher.Shell.Builtin.Basic
import JarLauncher.Tool.Place
import JarLauncher.Unix.Account

/-! Tools that answer from what they are told: texts, conditions, and who and where they are. -/

namespace JarLauncher.Tool

open Unix
open Shell (text newline)

/-- a text with the escapes that `echo -e` knows, and whether `\c` ended it -/
def withEscapes : Nat → Bytes → Bytes × Bool
  | 0, bs => (bs, false)
  | _, [] => ([], false)
  | fuel + 1, 92 :: b :: rest =>
    let go (o : Bytes) (rest : Bytes) : Bytes × Bool :=
      let (more, ended) := withEscapes fuel rest
      (o ++ more, ended)
    if b = 99 then ([], true)
    else if b = 101 then go [27] rest
    else if b = 48 then
      let digits := (rest.takeWhile Shell.Format.isOctal).take 3
      go [Shell.Format.octalValue digits] (rest.drop digits.length)
    else if b = 120 then
      let digits := (rest.takeWhile fun b => (Shell.Arithmetic.digit? 16 b).isSome).take 2
      if digits = [] then go [92, 120] rest
      else go [(digits.foldl (fun n b => n * 16 + (Shell.Arithmetic.digit? 16 b).getD 0) 0).toUInt8]
        (rest.drop digits.length)
    else match Shell.Format.letter? b with
      | some o => go [o] rest
      | none => go [92, b] rest
  | fuel + 1, b :: rest =>
    let (more, ended) := withEscapes fuel rest
    (b :: more, ended)

def isEchoOption (arg : Bytes) : Bool :=
  match arg with
  | 45 :: b :: rest => (b :: rest).all fun b => b == 110 || b == 101 || b == 69
  | _ => false

def echo : Routine := fun args => do
  let (options, words) := args.span isEchoOption
  let letters := options.flatMap fun o => o.drop 1
  let escapes : Bool := (letters.filter (· ≠ 110)).getLast? = some 101
  let line := (words.intersperse [32]).flatten
  let (line, ended) := if escapes then withEscapes (line.length + 1) line else (line, false)
  Work.put (line ++ if ended || letters.contains 110 then [] else [newline])

/-- a condition as the arguments state it; the status is 2 if they state none -/
def test : Routine := fun args => do
  match ← Work.act (Act.ask fun p s => Shell.Condition.holds (Shell.Builtin.files p s) args) with
  | .ok b => if !b then throw 1
  | .error message =>
    Work.complain [message]
    throw 2

def bracket : Routine := fun args => do
  if args.getLast? = some [93] then test args.dropLast
  else
    Work.complain [text "missing ']'"]
    throw 2

def succeed : Routine := fun _ => return

def refuse : Routine := fun _ => throw 1

def superuser : Bytes := text "root"

/-- what is told of accounts -/
structure Identity where
  /-- only this: the user, the group, or all groups -/
  only : Option Char := none
  several : Bool := false
  named : Bool := false
  real : Bool := false
  nulEnded : Bool := false

namespace Identity

def take (how : Identity) (g : Given) : Work Identity := do
  match g.letter with
  | 'n' => return { how with named := true }
  | 'r' => return { how with real := true }
  | 'z' => return { how with nulEnded := true }
  | 'Z' => Work.fail [text "--context (-Z) works only on an SELinux-enabled kernel"]
  | 'a' => return how
  | c => return { how with only := some c, several := how.several || how.only.any (· ≠ c) }

def menu : Menu :=
  { letters := "agnruzGZ"
    words := [flag "context" 'Z', flag "group" 'g', flag "groups" 'G', flag "name" 'n',
      flag "real" 'r', flag "user" 'u', flag "zero" 'z'] }

/-- an account by its name, or by its number -/
def account? (bs : Bytes) : Option Account :=
  let digits := if bs.head? = some 43 then bs.drop 1 else bs
  (Account.ofName? bs) <|> do
    let n ← Shell.natOf? digits
    Account.all.find? fun a => a.id = n

def shown (how : Identity) (account : Account) : Bytes :=
  let both (number : Nat) (name : String) : Bytes :=
    Shell.decimal number ++ text ("(" ++ name ++ ")")
  let one (number : Nat) (name : String) : Bytes :=
    if how.named then text name else Shell.decimal number
  let group := both account.group account.groupName
  match how.only with
  | some 'u' => one account.id account.name
  | some _ => one account.group account.groupName
  | none =>
    text "uid=" ++ both account.id account.name ++ text " gid=" ++ group ++ text " groups=" ++ group

/-- what stands behind each account -/
def ending (how : Identity) (isOnly : Bool) : Bytes :=
  if !how.nulEnded then [newline]
  else if how.only = some 'G' && !isOnly then [0, 0]
  else [0]

end Identity

def id : Routine := fun args => do
  let (how, operands) ← Work.options Identity.menu args { : Identity } Identity.take
  if how.several then Work.fail [text "cannot print \"only\" of more than one choice"]
  if how.only.isNone then
    if how.named || how.real then
      Work.fail [text "cannot print only names or real IDs in default format"]
    if how.nulEnded then Work.fail [text "option --zero not permitted in default format"]
  let names := if operands.isEmpty then [superuser] else operands
  for name in names do
    match Identity.account? name with
    | none =>
      let detail := if name = [] then text ": " ++ reason Errno.noEntry else []
      Work.warn [Quoting.plain name, text ": no such user", detail]
    | some account =>
      Work.put (how.shown account ++ how.ending (names.length = 1))

def whoami : Routine := fun args => do
  let (_, operands) ← Work.flags { letters := "" } args
  if let some extra := operands.head? then Work.extraOperand extra
  Work.putLine superuser

def tty : Routine := fun args => do
  let menu : Menu := { letters := "s", words := [flag "silent" 's', flag "quiet" 's'] }
  let (on, operands) ← Work.flags menu args
  if let some extra := operands.head? then Work.extraOperand extra
  if !on.contains 's' then Work.putLine (text "not a tty")
  throw 1

/-- the name of the system, and what else of it is always the same -/
def uname : Routine := fun args => do
  let menu : Menu :=
    { letters := "asnrvmpio"
      words := [flag "all" 'a', flag "kernel-name" 's', flag "machine" 'm',
        flag "operating-system" 'o', flag "nodename" 'n', flag "kernel-release" 'r',
        flag "kernel-version" 'v', flag "processor" 'p', flag "hardware-platform" 'i'] }
  let (on, operands) ← Work.flags menu args
  if let some extra := operands.head? then Work.extraOperand extra
  let on := if on.isEmpty then ['s'] else on
  let parts := [('s', "Linux"), ('n', "localhost"), ('m', "x86_64"), ('o', "GNU/Linux")].filter
    fun x => on.contains 'a' || on.contains x.1
  Work.putLine (((parts.map fun x => text x.2).intersperse [32]).flatten)

/-- say something that is always the same -/
def saying (line : String) : Routine := fun args => do
  let (_, operands) ← Work.flags { letters := "" } args
  if let some extra := operands.head? then Work.extraOperand extra
  Work.putLine (text line)

def arch : Routine := saying "x86_64"

/-- nobody is logged in -/
def users : Routine := fun args => do
  let (_, operands) ← Work.flags { letters := "" } args
  if let _ :: extra :: _ := operands then Work.extraOperand extra

def logname : Routine := fun args => do
  let (_, operands) ← Work.flags { letters := "" } args
  if let some extra := operands.head? then Work.extraOperand extra
  Work.fail [text "no login name"]

/-- how many processors there are -/
def processors : Nat := 2

def nproc : Routine := fun args => do
  let menu : Menu := { letters := "", words := [flag "all" 'a', valued "ignore" 'i'] }
  let (ignored, operands) ← Work.options menu args 0 fun ignored g => do
    if g.letter = 'i' then
      match Shell.natOf? (g.value.getD []) with
      | some n => return n
      | none => Work.fail [text "invalid number: ", Quoting.plain (g.value.getD [])]
    else return ignored
  if let some extra := operands.head? then Work.extraOperand extra
  Work.putLine (Shell.decimal (max 1 (processors - ignored)))

/-- the groups of accounts -/
def groups : Routine := fun args => do
  let (_, operands) ← Work.flags { letters := "" } args
  if operands.isEmpty then Work.putLine superuser
  for name in operands do
    match Account.ofName? name with
    | some a => Work.putLine (name ++ text " : " ++ text a.groupName)
    | none => Work.warn [Quoting.plain name, text ": no such user"]

/-- files are always where they belong -/
def sync : Routine := fun args => do
  let (on, operands) ← Work.flags { letters := "df", words := [flag "data" 'd',
    flag "file-system" 'f'] } args
  if on.contains 'd' && on.contains 'f' then
    Work.fail [text "cannot specify both --data and --file-system"]
  if on.contains 'd' && operands.isEmpty then
    Work.fail [text "--data needs at least one argument"]
  for x in operands do
    match ← Work.act (Act.openPath x Access.read) with
    | .ok fd => Work.act (Act.close fd)
    | .error e => Work.warn [text "error opening ", Quoting.always x, text ": ", reason e]

/-- where programs are found -/
def which : Routine := fun args => do
  let (on, operands) ← Work.flags { letters := "as" } args
  let dirs := Path.splitOn 58 (((← get).env.lookup Act.pathName).getD Act.usualPath)
  let mut missing := operands.isEmpty
  for x in operands do
    let places := if x.contains Path.slash then [x]
      else dirs.map fun dir => Path.join (if dir = [] then Path.here else dir) x
    let found ← Work.act (Act.ask fun p s => places.filter fun path =>
      match (s.find p path).map s.tree.node with
      | .ok n => match n.content with
        | .program _ => true
        | .file _ => n.mode &&& 0o111 ≠ 0
        | _ => false
      | .error _ => false)
    if found.isEmpty then missing := true
    if !on.contains 's' then
      (if on.contains 'a' then found else found.take 1).forM Work.putLine
  if missing then throw 1

end JarLauncher.Tool
