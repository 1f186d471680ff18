import JarLauncher.Shell.Builtin.Basic
import JarLauncher.Shell.Directory

/-! The commands about variables, arguments and options. -/

namespace JarLauncher.Shell.Builtin

open Unix

/-- mark variables, setting those with a value; or show those with the mark -/
def mark (name : String) (exported readOnly : Bool) (p : Var → Bool) : Builtin := fun args => do
  let o ← Options.take "p" args
  if o.has 'p' || o.operands.isEmpty then
    Sh.listing (text name ++ [32]) p false
    return 0
  for a in o.operands do
    let (n, value) := Sh.split a
    match value, (← get).var? n with
    | none, some v =>
      modify fun m => m.putVar n
        { v with exported := v.exported || exported, readOnly := v.readOnly || readOnly }
    | value, _ => Sh.setVar n value exported readOnly
  return 0

def export_ : Builtin := mark "export" true false Var.exported

def readonly : Builtin := mark "readonly" false true Var.readOnly

def unset : Builtin := fun args => do
  let o ← Options.take "vf" args
  let last := (o.given.getLast?.map Prod.fst)
  for a in o.operands do
    if last = some 'f' then
      modify fun m => { m with functions := m.functions.filter (·.1 ≠ a) }
    else Sh.setVar a none
  return 0

def local_ : Builtin := fun args => do
  if (← get).locals.isEmpty then Sh.fail [text "not in a function"]
  for a in args do Sh.makeLocal a false
  return 0

def setArgs (args : List Bytes) : Sh Unit :=
  modify fun m => { m with args := args, place := ⟨1, none⟩ }

def shift : Builtin := fun args => do
  let n ← match args with
    | [] => pure 1
    | a :: _ => Sh.number a
  let m ← get
  if m.args.length < n then Sh.fail [text "can't shift that many"]
  setArgs (m.args.drop n)
  return 0

/-- the options of the shell by name, with the letters that they are known by; two have none of
their own -/
def optionNames : List (String × Char) :=
  [("errexit", 'e'), ("noglob", 'f'), ("ignoreeof", 'I'), ("interactive", 'i'), ("monitor", 'm'),
   ("noexec", 'n'), ("stdin", 's'), ("xtrace", 'x'), ("verbose", 'v'), ("vi", 'V'), ("emacs", 'E'),
   ("noclobber", 'C'), ("allexport", 'a'), ("notify", 'b'), ("nounset", 'u'),
   ("privileged", 'p'), ("nolog", '1'), ("debug", '2')]

/-- the options of a shell or of `set`, as far as they were read -/
structure Chosen where
  options : List Char
  /-- options that nothing was said of; as a shell starts, they are shown as if they were on -/
  unsaid : List Char
  args : List Bytes
  /-- what is to be shown of the options -/
  shown : List Bytes
  /-- a command line was asked for -/
  commandLine : Bool
  /-- the arguments are to be set even if there are none -/
  resets : Bool

namespace Chosen

def showAll (c : Chosen) (on : Bool) : List Bytes :=
  let lines := optionNames.map fun (name, l) =>
    let isOn := c.options.contains l || c.unsaid.contains l
    if on then
      text name ++ List.replicate (16 - name.length) 32 ++ text (if isOn then "on\n" else "off\n")
    else text (if isOn then "set -o " else "set +o ") ++ text name ++ [newline]
  if on then text "Current option settings\n" :: lines else lines

def turn (c : Chosen) (l : Char) (on : Bool) : Chosen :=
  let excluded (o : Char) : Bool := o = l || (on && (l = 'V' && o = 'E' || l = 'E' && o = 'V'))
  let others := c.options.filter fun o => !excluded o
  { c with
    options := if on then l :: others else others
    unsaid := c.unsaid.filter fun o => !excluded o }

/-- the letters of one argument; what is wrong is the message of a mistake -/
def letters (starting on : Bool) : Chosen → Bytes → Except Bytes Chosen
  | c, [] => .ok c
  | c, b :: rest =>
    let l := chr b
    if l = 'c' ∧ starting then letters starting on { c with commandLine := true } rest
    else if l = 'l' ∧ starting then letters starting on c rest
    else if l = 'o' then
      match c.args with
      | [] => letters starting on { c with shown := c.shown ++ c.showAll on } rest
      | name :: args =>
        match optionNames.find? fun o => text o.1 = name with
        | some (_, o) =>
          let others := c.options.filter (· ≠ o)
          let c := { c with
            args := args
            options := if on then o :: others else others
            unsaid := c.unsaid.filter (· ≠ o) }
          letters starting on c rest
        | none => .error (text "Illegal option -o " ++ name)
    else if (optionNames.any fun o => o.2 = l) ∧ l ≠ '1' ∧ l ≠ '2' then
      letters starting on (c.turn l on) rest
    else .error (text "Illegal option -" ++ [b])

/-- the options at the front of arguments; `fuel` bounds the arguments -/
def from_ (starting : Bool) : Nat → Chosen → Except Bytes Chosen
  | 0, c => .ok c
  | fuel + 1, c =>
    match c.args with
    | [45] :: rest =>
      .ok { c with
        args := rest
        options := if starting then c.options else c.options.filter fun o => o ≠ 'x' && o ≠ 'v' }
    | [45, 45] :: rest => .ok { c with args := rest, resets := !starting }
    | (45 :: ls) :: rest => do
      from_ starting fuel (← letters starting true { c with args := rest } ls)
    | (43 :: ls) :: rest => do
      from_ starting fuel (← letters starting false { c with args := rest } ls)
    | _ => .ok c

def ofArguments (starting : Bool) (options : List Char) (args : List Bytes) :
    Except Bytes Chosen :=
  from_ starting (args.length + 1)
    { options := options
      unsaid := if starting then optionNames.map Prod.snd else []
      args := args
      shown := []
      commandLine := false
      resets := false }

end Chosen

/-- a shell without a terminal has no control over jobs -/
def checkMonitor : Sh Unit := do
  let m ← get
  if m.isMain && m.options.contains 'm' then
    Sh.complain [text "can't access tty; job control turned off"]
    modify fun m => { m with options := m.options.filter (· ≠ 'm') }

def set_ : Builtin := fun args => do
  if args.isEmpty then
    Sh.listing [] (fun _ => true) true
    return 0
  match Chosen.ofArguments false (← get).options args with
  | .error message => Sh.fail [message]
  | .ok c =>
    c.shown.forM Sh.put
    modify fun m => { m with options := c.options }
    checkMonitor
    if c.resets || !c.args.isEmpty then setArgs c.args
    return 0

/-- one option more of arguments that are taken letter by letter -/
def getopts : Builtin := fun args => do
  match args with
  | spec :: name :: given =>
    let m ← get
    let argv := if given.isEmpty then m.args else given
    let place : OptionPlace := if argv.length + 1 < m.place.index then ⟨1, none⟩ else m.place
    let before := argv[place.index - 2]?.filter fun _ => 2 ≤ place.index
    let left : Bytes := match place.offset, before with
      | some n, some word => word.drop n
      | _, _ => []
    let setOptarg (value : Option Bytes) : Sh Unit := Sh.setVar (text "OPTARG") value
    let finish (index : Nat) (left : Bytes) (letter : UInt8) (status : Nat) : Sh Nat := do
      Sh.assign (text "OPTIND") (some (decimal index)) false false false true
      Sh.setVar name (some [letter])
      let word := if 2 ≤ index then argv.getD (index - 2) [] else []
      modify fun m => { m with
        place := ⟨index, if left = [] then none else some (word.length - left.length)⟩ }
      return status
    let question : UInt8 := 63
    let letter (index : Nat) (c : UInt8) (rest : Bytes) : Sh Nat := do
      let quiet := spec.head? = some 58
      match spec.dropWhile (fun b => b ≠ c || b = 58) with
      | [] =>
        if quiet then setOptarg (some [c])
        else
          Sh.lineTo 2 [text "Illegal option -", [c]]
          setOptarg none
        finish index rest question 0
      | _ :: 58 :: _ =>
        match rest, argv[index - 1]? with
        | [], none =>
          if quiet then
            setOptarg (some [c])
            finish index [] 58 0
          else
            Sh.lineTo 2 [text "No arg for -", [c], text " option"]
            setOptarg none
            finish index [] question 0
        | [], some value =>
          setOptarg (some value)
          finish (index + 1) [] c 0
        | rest, _ =>
          setOptarg (some rest)
          finish index [] c 0
      | _ =>
        setOptarg (some [])
        finish index rest c 0
    match left with
    | c :: rest => letter place.index c rest
    | [] =>
      match argv[place.index - 1]? with
      | some (45 :: c :: rest) =>
        if c = 45 ∧ rest = [] then finish (place.index + 1) [] question 1
        else letter (place.index + 1) c rest
      | _ => finish place.index [] question 1
  | _ => Sh.fail [text "Usage: getopts optstring var [arg...]"]

/-- a line while it is read -/
structure Line where
  runs : Expanded
  /-- a backslash stands before -/
  escaping : Bool

/-- one octet more of a line -/
def Line.push (l : Line) (b : UInt8) : Line :=
  if l.escaping then
    if b = newline then { l with escaping := false, runs := ⟨.split, []⟩ :: l.runs }
    else ⟨⟨.split, []⟩ :: l.runs.add .fixed [.octet b true], false⟩
  else match l.runs with
    | r :: rest => { l with runs := { r with cells := .octet b false :: r.cells } :: rest }
    | [] => { l with runs := [⟨.split, [.octet b false]⟩] }

/-- read a line octet by octet; false if it has no end -/
def readLine (raw : Bool) : Nat → Line → Sh (Line × Bool)
  | 0, l => return (l, false)
  | fuel + 1, l => do
    match ← Sh.act (Act.read 0 1) with
    | .error e =>
      if e ≠ Errno.interrupted then return (l, false)
      Sh.noticeSignals
      Sh.dieInterrupted
      return (l, false)
    | .ok piece =>
      match piece.toList with
      | [] => return (l, false)
      | b :: _ =>
        if b = 0 then readLine raw fuel l
        else if b = newline ∧ !l.escaping then return (l, true)
        else if b = 92 ∧ !raw ∧ !l.escaping then readLine raw fuel { l with escaping := true }
        else readLine raw fuel (l.push b)

def read : Builtin := fun args => do
  let o ← Options.take "p:r" args
  if o.operands.isEmpty then Sh.fail [text "arg count"]
  let (l, ended) ← readLine (o.has 'r') Act.patience ⟨[⟨.split, []⟩], false⟩
  let fields := l.runs.fields (← get).separators (some o.operands.length)
  let values := fields.map Field.text
  for (name, i) in o.operands.zipIdx do Sh.setVar name (some (values.getD i []))
  return if ended then 0 else 1

end JarLauncher.Shell.Builtin
