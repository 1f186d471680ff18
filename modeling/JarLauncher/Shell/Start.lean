import JarLauncher.Shell.Evaluation

/-! A shell as a program: what it takes over from its process, what its arguments ask for, and where
its commands come from. -/

namespace JarLauncher.Shell.Start

open Unix

/-- the variables that every shell has -/
def ownVars : List (Bytes × Var) :=
  let var (value : Bytes) : Var := ⟨some value, false, false, true⟩
  [(text "OPTIND", var [49]), (text "PS4", var (text "+ ")), (text "PS2", var (text "> ")),
   (text "PS1", var (text "# ")), (text "PATH", var standardPath),
   (text "IFS", var [32, 9, newline])]

/-- a shell that knows nothing of its process yet -/
def fresh (pid : Pid) : Memory where
  name := text "sh"
  args := []
  place := ⟨1, none⟩
  vars := ownVars
  locals := []
  functions := []
  aliases := []
  remembered := []
  options := []
  status := 0
  outputStatus := 0
  keptStatus := none
  skip := none
  skipCount := 0
  loops := 0
  depth := 0
  texts := 0
  mainPid := pid
  isMain := true
  lastJob := none
  jobs := []
  dir := []
  physicalDir := none
  line := 1
  complaintLine := 0
  readLine := 1
  functionLine := 0
  command := none
  output := ByteArray.empty
  replaced := []
  traps := []
  caught := []
  deaf := []
  documents := #[]
  heldEnd := false
  inTrace := false

/-- take over variables, as far as their names are such -/
def takeVars (env : List (Bytes × Bytes)) : Sh Unit := do
  for (name, value) in env do
    if isName name then Sh.assign name (some value) true false false
  Sh.assign (text "IFS") (some [32, 9, newline]) false false false
  Sh.assign (text "OPTIND") (some [49]) false false false
  let parent ← Sh.act (Act.ask fun p s => ((s.process? p).map Process.parent).getD 0)
  Sh.assign (text "PPID") (some (decimal parent)) false false false

/-- take over the name of the working directory, if it is right -/
def takeDir : Sh Unit := do
  let m ← get
  let named ← match m.valueOf "PWD" with
    | none => pure none
    | some dir =>
      let isRight ← Sh.act (Act.ask fun p s =>
        Path.isAbsolute dir && (s.find p dir).toOption = some (s.cwd p))
      pure (if isRight then some dir else none)
  Directory.enter named

/-- take over which signals are ignored -/
def takeSignals : Sh Unit := do
  let deaf ← Sh.act (Act.ask fun p s =>
    (List.range 65).filter fun sig =>
      (s.process? p).any fun x => x.dispositions sig = .ignored)
  modify fun m => { m with deaf := deaf.filter (· ≠ Signal.child) }
  Sh.setSignal Signal.child
  Sh.setSignal Signal.int

/-- where the commands come from -/
inductive Origin where
  | line (commands : Bytes)
  | file (fd : Nat)

/-- do what the arguments ask for -/
def takeArguments (argv : List Bytes) : Sh (List Origin) := do
  modify fun m => { m with name := argv.headD [] }
  match Builtin.Chosen.ofArguments true [] (argv.drop 1) with
  | .error message => Sh.fail [message]
  | .ok c =>
    c.shown.forM Sh.put
    let _ ← Sh.flush
    let setArgs (options : List Char) (args : List Bytes) : Sh Unit :=
      modify fun m => { m with args := args, options := options }
    let input := c.options.contains 's'
    match c.commandLine, c.args with
    | true, [] => Sh.fail [text "-c requires an argument"]
    | true, commands :: rest =>
      setArgs c.options (rest.drop 1)
      if let name :: _ := rest then modify fun m => { m with name := name }
      return .line commands :: if input then [.file 0] else []
    | false, [] =>
      setArgs (if input then c.options else 's' :: c.options) []
      return [.file 0]
    | false, path :: rest =>
      if input then
        setArgs c.options c.args
        return [.file 0]
      let fd ← Evaluation.openScript path
      setArgs c.options rest
      modify fun m => { m with name := path }
      return [.file fd]

/-- run the commands of one place after another, as long as they say so -/
def runAll : List Origin → Sh Unit
  | [] => return
  | .line commands :: rest => do
    let _ ← Script.evaluate run false commands
    runAll rest
  | .file fd :: rest => do
    let _ ← Script.runFile run fd
    runAll rest

def work (i : Image) : Sh Nat := do
  let r ← Sh.capture do
    takeSignals
    takeVars i.env
    takeDir
    let origins ← takeArguments i.argv
    Sh.setSignal Signal.int
    Builtin.checkMonitor
    runAll origins
  Script.conclude run r

/-- a shell with its arguments and variables -/
def program (i : Image) : Activity :=
  .call Act.callCost fun p s =>
    (some ((work i) (fresh p) fun (r, m) => .exit ((r.toOption).getD m.status)), s)

end JarLauncher.Shell.Start
