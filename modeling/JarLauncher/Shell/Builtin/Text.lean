import JarLauncher.Shell.Builtin.Basic

/-! The commands that show or compare texts, and those that tell what a name stands for. -/

namespace JarLauncher.Shell.Builtin

open Unix

def echo : Builtin := fun args => do
  Sh.put (Format.echo args)
  return 0

def printf : Builtin := fun args => do
  match ← operands args with
  | [] => Sh.fail [text "usage: printf format [arg ...]"]
  | template :: args =>
    let shown := Format.format template args
    shown.complaints.reverse.forM fun c => Sh.complain [c]
    shown.output.reverse.forM Sh.put
    match shown.ended with
    | some (some mistake) => Sh.fail [mistake]
    | _ => return if shown.complaints.isEmpty then 0 else 1

def test : Builtin := fun args => do
  match ← Sh.act (Act.ask fun p s => Condition.holds (files p s) args) with
  | .ok b => return if b then 0 else 1
  | .error message => Sh.fail [message]

/-- a condition in brackets -/
def bracket : Builtin := fun args =>
  match args.getLast? with
  | some (93 :: _) => test args.dropLast
  | _ => Sh.fail [text "missing ]"]

def isKeyword (name : Bytes) : Bool := (Keyword.ofText? name).isSome

def aliasText (name body : Bytes) : Bytes := name ++ 61 :: quoted body ++ [newline]

variable (load : Search.Loader)

/-- Tell what a name stands for; in short, or in words. The name is put down before a file that
defines it is run. -/
def describe (path : Option Bytes) (verbose : Bool) (name : Bytes) : Sh Nat := do
  let m ← get
  if verbose then Sh.put name
  let say (short words : Bytes) : Sh Nat := do
    Sh.put ((if verbose then words else short) ++ [newline])
    return 0
  if isKeyword name then return ← say name (text " is a shell keyword")
  if let some body := m.aliases.lookup name then
    if verbose then return ← say [] (text " is an alias for " ++ body)
    Sh.put (text "alias " ++ aliasText name body)
    return 0
  let tracked := if path.isSome || (m.functions.lookup name).isSome then none
    else (m.remembered.find? fun r => r.name = name).bind fun r =>
      match r.found with
      | .file i => some i
      | .builtin => none
  let where_ := path.getD m.path
  match tracked with
  | some i =>
    let file := CommandPath.fileAt where_ name (some i)
    say file (text " is a tracked alias for " ++ file)
  | none =>
    let looking : Looking := { path := where_, isOther := path.isSome, mustExist := true }
    match ← Search.find load looking name with
    | .file i =>
      let file := CommandPath.fileAt where_ name i
      say file (text " is " ++ file)
    | .function .. => say name (text " is a shell function")
    | .own o =>
      say name (text (if o.special then " is a special shell builtin" else " is a shell builtin"))
    | .unknown =>
      if verbose then Sh.put (text ": not found\n")
      return 127

def type_ : Builtin := fun args => do
  let statuses ← args.mapM (describe load none true)
  return statuses.foldl (· ||| ·) 0

/-- what is left of `command` when it names no command to run -/
def command : Builtin := fun args => do
  let o ← Options.take "pvV" args
  match o.operands with
  | name :: _ =>
    if o.has 'v' || o.has 'V' then
      describe load (if o.has 'p' then some standardPath else none) (o.has 'V') name
    else return 0
  | [] => return 0

/-- the shelf that a remembered command stands on -/
def shelf (name : Bytes) : Nat :=
  (name.foldl (fun n b => n + b.toNat) ((name.headD 0).toNat * 16) &&& 0x7fff) % 31

def hash : Builtin := fun args => do
  let o ← Options.take "r" args
  if o.has 'r' then
    modify fun m => { m with remembered := [] }
    return 0
  if o.operands.isEmpty then
    let m ← get
    for r in m.remembered.mergeSort fun a b => shelf a.name ≤ shelf b.name do
      match r.found with
      | .file i =>
        let file := CommandPath.fileAt m.path r.name (some i)
        Sh.put (file ++ (if r.stale then [42] else []) ++ [newline])
      | .builtin => pure ()
    return 0
  let mut status := 0
  for name in o.operands do
    modify fun m => { m with
      remembered := m.remembered.filter fun r => r.name ≠ name || r.found = .builtin }
    match ← Search.find load { path := (← get).path, complains := true } name with
    | .unknown => status := 1
    | _ => pure ()
  return status

def setAlias (name body : Bytes) (m : Memory) : Memory :=
  { m with
    aliases := if (m.aliases.lookup name).isNone then m.aliases ++ [(name, body)]
      else m.aliases.map fun x => if x.1 = name then (name, body) else x }

def alias_ : Builtin := fun args => do
  let m ← get
  if args.isEmpty then
    for (name, body) in m.aliases.mergeSort fun a b => Memory.shelf a.1 ≤ Memory.shelf b.1 do
      Sh.put (aliasText name body)
    return 0
  let mut status := 0
  for a in args do
    let (name, rest) := (a.drop 1).span (· ≠ 61)
    let name := a.take 1 ++ name
    match rest with
    | _ :: body =>
      modify (setAlias name body)
    | [] =>
      match (← get).aliases.lookup name with
      | some body => Sh.put (aliasText name body)
      | none =>
        Sh.lineTo 2 [text "alias: ", name, text " not found"]
        status := 1
  return status

def unalias : Builtin := fun args => do
  let o ← Options.take "a" args
  if o.has 'a' then
    modify fun m => { m with aliases := [] }
    return 0
  let mut status := 0
  for name in o.operands do
    if ((← get).aliases.lookup name).isNone then
      Sh.lineTo 2 [text "unalias: ", name, text " not found"]
      status := 1
    modify fun m => { m with aliases := m.aliases.filter (·.1 ≠ name) }
  return status

end JarLauncher.Shell.Builtin
