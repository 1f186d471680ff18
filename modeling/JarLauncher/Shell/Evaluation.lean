import JarLauncher.Shell.Builtin.Parameter
import JarLauncher.Shell.Builtin.Place
import JarLauncher.Shell.Builtin.Process
import JarLauncher.Shell.Builtin.Text
import JarLauncher.Shell.Execution
import JarLauncher.Shell.Script

/-! Running commands. Each kind of command is run by a function that is given the way to run the
commands in it; the last definitions tie the knot, to a fixed depth. -/

namespace JarLauncher.Shell

open Unix

namespace Evaluation

/-- the shell's own commands that run no other command -/
def plain : List (String × Builtin) :=
  [(":", fun _ => return 0), ("[", Builtin.bracket), ("alias", Builtin.alias_),
   ("bg", Builtin.move), ("cd", Builtin.cd), ("chdir", Builtin.cd), ("echo", Builtin.echo),
   ("export", Builtin.export_), ("false", fun _ => return 1), ("fg", Builtin.move),
   ("getopts", Builtin.getopts), ("jobs", Builtin.jobs), ("kill", Builtin.kill),
   ("local", Builtin.local_), ("printf", Builtin.printf), ("pwd", Builtin.pwd),
   ("read", Builtin.read), ("readonly", Builtin.readonly), ("set", Builtin.set_),
   ("shift", Builtin.shift), ("test", Builtin.test), ("times", Builtin.times),
   ("trap", Builtin.trap), ("true", fun _ => return 0), ("ulimit", Builtin.ulimit),
   ("umask", Builtin.umask), ("unalias", Builtin.unalias), ("unset", Builtin.unset),
   ("wait", Builtin.wait)]

/-- there are actions that must still be carried out -/
def hasTraps (m : Memory) : Bool := m.traps.any fun t => t.2 ≠ []

/-- the line that is run now -/
def atLine (line : Nat) : Sh Unit := modify fun m =>
  { m with
    complaintLine := line
    line := if m.functionLine = 0 then line else line - (m.functionLine - 1) }

/-- how often functions may call each other -/
def maxDepth : Nat := 1000

variable (run : Runner)

/-- all that can be read from a descriptor -/
def readAll (fd : Nat) : Nat → List Bytes → Sh Bytes
  | 0, done => return done.reverse.flatten
  | fuel + 1, done => do
    match ← Sh.act (Act.read fd 65536) with
    | .ok piece =>
      if piece.isEmpty then return done.reverse.flatten
      readAll fd fuel (piece.toList :: done)
    | .error e =>
      if e ≠ Errno.interrupted then return done.reverse.flatten
      Sh.noticeSignals
      readAll fd fuel done

/-- put an end of a pipe under the number that a command uses -/
def install (source goal : Nat) : Sh Unit := do
  if source ≠ goal then
    let _ ← Sh.act (Act.duplicate source goal false)
    Sh.act (Act.close source)

/-- what a command writes to its standard output -/
def output (c : Command) : Sh Bytes := do
  let (r, w) ← Redirection.openPipe
  let number ← Sh.newJob
  Sh.fork (some number) false (Script.conclude run) do
    Sh.act (Act.close r)
    install w 1
    run ⟨true, false⟩ c
  Sh.act (Act.close w)
  let bs ← readAll r Act.patience []
  Sh.act (Act.close r)
  let _ ← Sh.await (some number) .job
  let status := ((← Sh.job? number).map Job.status).getD 0
  Sh.freeJob number
  modify fun m => { m with outputStatus := status }
  return bs

/-- the words of a command, as far as they were expanded -/
structure Words where
  /-- all arguments -/
  all : List Bytes
  /-- the arguments from the name of the command on -/
  args : List Bytes
  rest : List Word

/-- expand words until there is an argument more; false if there is none -/
def moreFrom (all args : List Bytes) : List Word → Sh (Bool × Words)
  | [] => return (false, ⟨all, args, []⟩)
  | w :: rest => do
    match ← Expansion.fieldsOf (output run) w with
    | [] => moreFrom all args rest
    | fields => return (true, ⟨all ++ fields, args ++ fields, rest⟩)

def Words.more (w : Words) : Sh (Bool × Words) := moreFrom run w.all w.args w.rest

/-- open a file that commands are read from, under a high number -/
def openScript (path : Bytes) : Sh Nat := do
  match ← Sh.act (Act.openPath path .read) with
  | .error e => Redirection.cannotOpen path e
  | .ok fd =>
    if 10 ≤ fd then return fd
    return (← Redirection.lift fd fd).getD fd

/-- run the commands of an open file, and close it -/
def runOpen (fd : Nat) : Sh Nat := do
  let r ← Sh.capture (Script.reading (Script.runFile run fd))
  Sh.act (Act.close fd)
  Sh.resume r

/-- run a file of the path that defines a function -/
def load : Search.Loader := fun path => do
  let _ ← runOpen run (← openScript path)

/-- What follows the word `command`: its options, then the command, of which the answer tells
whether the standard path is to be searched for it. There is none if other options or nothing
follows. -/
def commandOptions (w : Words) : Nat → Bool → Sh (Option Bool × Words)
  | 0, _ => return (none, w)
  | fuel + 1, standard => do
    let (there, w) ← if w.args.isEmpty then w.more run else pure (true, w)
    if !there then return (none, w)
    match w.args with
    | (45 :: b :: letters) :: rest =>
      if b = 45 ∧ letters = [] then
        let w := { w with args := rest }
        let (there, w) ← if rest.isEmpty then w.more run else pure (true, w)
        return (if there then some standard else none, w)
      if (b :: letters).all (· = 112) then commandOptions { w with args := rest } fuel true
      else return (none, w)
    | _ => return (some standard, w)

/-- what is known of a command before its arguments are expanded -/
structure Choice where
  words : Words
  meaning : Meaning
  /-- it is a special one, so that a mistake in it ends the shell -/
  special : Bool
  /-- the assignments before it are its own -/
  ownVars : Bool
  /-- its arguments may be assignments -/
  assigns : Bool
  isExec : Bool
  noFunctions : Bool
  /-- it is looked for in the standard path -/
  standard : Bool

/-- find out what the first word of a command stands for -/
def chooseFrom : Nat → Choice → Sh Choice
  | 0, c => return c
  | fuel + 1, c => do
    let m ← get
    let looking : Looking := { path := m.path, noFunctions := c.noFunctions, onlyRegular := true }
    let meaning ← Search.find (load run) looking (c.words.args.headD [])
    match meaning with
    | .own o =>
      let c : Choice :=
        if c.noFunctions then { c with meaning := meaning, assigns := o.assigns, ownVars := true }
        else { c with
          meaning := meaning, assigns := o.assigns, special := o.special, ownVars := !o.special }
      let c := { c with isExec := o.name = "exec" }
      if o.name ≠ "command" then return c
      let start := { c.words with args := c.words.args.drop 1 }
      match ← commandOptions run start Act.patience c.standard with
      | (some standard, words) =>
        chooseFrom fuel { c with words := words, standard := standard, noFunctions := true }
      | (none, words) =>
        let before := c.words.all.length - c.words.args.length
        return { c with words := { words with args := words.all.drop before } }
    | meaning =>
      return { c with meaning := meaning, ownVars := true, assigns := false, isExec := false }

/-- the arguments that are left to be expanded -/
def argumentsFrom (assigns : Bool) : List Word → Sh (List Bytes)
  | [] => return []
  | w :: rest => do
    let fields ← match if assigns then Read.assignment? w else none with
      | some (name, value) => do pure [← Expansion.assignmentOf (output run) name value]
      | none => Expansion.fieldsOf (output run) w
    return fields ++ (← argumentsFrom assigns rest)

/-- the text of the mark in front of a trace, read as a document -/
def markWord (raw : Bytes) : Sh Word := do
  let m ← get
  let source := { Source.ofText raw true 1 with
    aliases := m.aliases
    documents := m.documents
    innerLine := 1
    isHeld := m.heldEnd
    last := .endOfText }
  let held (s : Source) : Sh Unit := modify fun m => { m with heldEnd := s.isHeld }
  match Read.whole.run source with
  | .ok w s =>
    held s
    modify fun m => { m with documents := s.documents }
    return w
  | .error (.mistake line message) s =>
    held s
    modify fun m => { m with complaintLine := line }
    Sh.fail [text message]
  | .error .unfinished _ => throw .mistake

/-- the mark in front of a trace; its text is not expanded if there is a mistake in it -/
def traceMark : Sh Bytes := do
  let m ← get
  let raw := (m.valueOf "PS4").getD []
  set { m with inTrace := true }
  let made ← Sh.capture do Expansion.documentOf (output run) (← markWord raw)
  modify fun m => { m with inTrace := false }
  match made with
  | .ok bs => return bs
  | .error _ => return raw

/-- show what is run, where standard error was before the command's own redirections -/
def trace (assigns args : List Bytes) : Sh Unit := do
  let m ← get
  if m.options.contains 'x' && !m.inTrace then
    let mark ← traceMark run
    let fd := match (m.replaced.headD []).lookup 2 with
      | some (some place) => place
      | _ => 2
    Sh.lineTo fd [mark, ((assigns ++ args).intersperse [32]).flatten]

/-- the commands of an argument, or of several joined by blanks -/
def evaluateText (fl : Flags) : Builtin := fun args =>
  Script.evaluate run fl.tested (args.intersperse [32]).flatten

/-- the first file with a name in the directories of the path -/
def scriptFile (name : Bytes) : Sh Bytes := do
  if name.contains 47 then return name
  let m ← get
  let isFile (path : Bytes) : Act Bool := Act.ask fun p s =>
    match s.find p path with
    | .ok n => match s.tree.content n with
      | .file _ | .program _ => true
      | _ => false
    | .error _ => false
  let dirs := (CommandPath.dirs m.path).filter fun d => d.mark ≠ some .builtins
  match ← (dirs.map (CommandPath.fileIn · name)).findM? fun path => Sh.act (isFile path) with
  | some path => return path
  | none => Sh.fail [name, text ": not found"]

/-- run the commands of a file in this shell -/
def source : Builtin := fun args => do
  match ← Builtin.operands args with
  | [] => return 0
  | name :: _ =>
    let path ← scriptFile name
    let fd ← openScript path
    modify fun m => { m with command := some path }
    runOpen run fd

def exit : Builtin := fun args => do
  if let a :: _ := args then
    let n ← Sh.number a
    modify fun m => { m with keptStatus := some n }
  throw .exit

def return_ : Builtin := fun args => do
  match args with
  | [] =>
    modify fun m => { m with skip := some (.return false) }
    return (← get).status
  | a :: _ =>
    let n ← Sh.number a
    modify fun m => { m with skip := some (.return true) }
    return n

/-- leave loops, or go on with their next rounds -/
def leave (how : Skip) : Builtin := fun args => do
  let n ← match args with
    | [] => pure 1
    | a :: _ => do
      let n ← Sh.number a
      if n = 0 then Sh.fail [text "Illegal number: ", a]
      pure n
  modify fun m =>
    let n := min n m.loops
    if n = 0 then m else { m with skip := some how, skipCount := n }
  return 0

def exec : Builtin := fun args => do
  if args.isEmpty then return 0
  modify fun m => { m with options := m.options.filter fun o => o ≠ 'i' && o ≠ 'm' }
  Execution.replace args (← get).path 0
  return 0

/-- the shell's own command with a name -/
def own (fl : Flags) (name : String) : Builtin :=
  match name with
  | "eval" => evaluateText run fl
  | "." => source run
  | "exit" => exit
  | "return" => return_
  | "break" => leave .break
  | "continue" => leave .continue
  | "exec" => exec
  | "command" => Builtin.command (load run)
  | "hash" => Builtin.hash (load run)
  | "type" => Builtin.type_ (load run)
  | name => (plain.lookup name).getD fun _ => return 0

/-- Carry out a command of the shell's own. A mistake in it that does not end the shell is only its
status. -/
def carryOut (name : Bytes) (special : Bool) (body : Sh Nat) : Sh Unit := do
  let before := (← get).command
  modify fun m => { m with command := some name }
  let r ← Sh.capture do
    let status ← body
    let failed ← Sh.flush
    if failed.isSome then Sh.complain [name, text ": I/O error"]
    Sh.setStatus (if failed.isSome then status ||| 1 else status)
  modify fun m => { m with command := before, output := ByteArray.empty }
  match r with
  | .ok _ => return
  | .error .mistake => if special then throw .mistake
  | .error stop => throw stop

/-- call a function -/
def call (fl : Flags) (line : Nat) (body : Command) (args : List Bytes) : Sh Unit := do
  let m ← get
  if maxDepth ≤ m.depth then
    Sh.fail [text "Maximum function recursion depth (", decimal maxDepth, text ") reached"]
  set { m with
    args := args, place := ⟨1, none⟩, functionLine := line, loops := 0, depth := m.depth + 1 }
  let r ← Sh.capture (run ⟨false, fl.tested⟩ body)
  modify fun now => { now with
    args := m.args
    place := m.place
    functionLine := m.functionLine
    loops := m.loops
    depth := m.depth
    skip := match now.skip with
      | some (.return _) => none
      | skip => skip }
  Sh.resume r

/-- run what the words of a command stand for -/
def execute (fl : Flags) (c : Choice) (args : List Bytes) : Sh Unit := do
  let m ← get
  let path := if c.standard then standardPath else m.path
  let isRegular := match c.meaning with
    | .own o => o.regular
    | _ => false
  let meaning ← if isRegular then pure c.meaning
    else
      let looking : Looking :=
        { path := path, isOther := c.standard, noFunctions := c.noFunctions, complains := true }
      Search.find (load run) looking (args.headD [])
  match meaning with
  | .unknown => Sh.setStatus 127
  | .file index =>
    let index := index.getD 0
    if fl.last && !hasTraps m then Execution.replace args path index
    else Execution.spawn args path index
  | .own o => carryOut (args.headD []) c.special (own run fl o.name (args.drop 1))
  | .function line body => call run fl line body (args.drop 1)

/-- set a variable before a command, for the command alone or for good -/
def assign (c : Choice) (isExec : Bool) (a : Bytes × Word) : Sh Bytes := do
  let value ← Expansion.valueOf (output run) a.2
  let assignment := a.1 ++ 61 :: value
  if c.ownVars then Sh.makeLocal assignment true
  else Sh.assign a.1 (some value) isExec false false
  return assignment

def simple (fl : Flags) (line : Nat) (assigns : List (Bytes × Word)) (words : List Word)
    (redirects : List Redirect) : Sh Unit := do
  atLine line
  modify fun m => { m with outputStatus := 0 }
  let (isCommand, first) ← (Words.mk [] [] words).more run
  let start : Choice := ⟨first, .unknown, false, false, false, false, false, false⟩
  let c ← if isCommand then chooseFrom run Act.patience start else pure start
  let rest ← argumentsFrom run c.assigns c.words.rest
  let all := c.words.all ++ rest
  let args := c.words.args ++ rest
  let work : Sh Unit := do
    let targets ← redirects.mapM (Redirection.targetOf (output run))
    Redirection.during (output run) targets fun made => do
      if !made then
        Sh.setStatus 2
        if c.special then throw .mistake
        return false
      let assigned ← assigns.mapM (assign run c (c.isExec && 1 < args.length))
      trace run assigned all
      if isCommand then execute run fl c args
      else modify fun m => { m with status := m.outputStatus }
      return c.isExec
  if c.ownVars then Sh.withLocals work else work

/-- what becomes of a skip at the end of a loop's round: whether the loop is left, and whether the
rest of the round is passed over -/
inductive Round where
  | goOn | again | left
  deriving DecidableEq

def endRound : Sh Round := do
  let m ← get
  match m.skip with
  | none => return .goOn
  | some (.return _) => return .left
  | some how =>
    if m.skipCount ≤ 1 then
      set { m with skip := none, skipCount := m.skipCount - 1 }
      return if how = .continue then .again else .left
    set { m with skipCount := m.skipCount - 1 }
    return .left

/-- a return with a status of its own is under way -/
def isGivenReturn (m : Memory) : Bool := m.skip = some (.return true)

def loopFrom (tested until_ : Bool) (cond body : Command) : Nat → Nat → Sh Nat
  | 0, status => return status
  | fuel + 1, status => do
    run ⟨false, true⟩ cond
    let n := (← get).status
    match ← endRound with
    | .left => return if isGivenReturn (← get) then n else status
    | .again => loopFrom tested until_ cond body fuel status
    | .goOn =>
      if (n = 0) = until_ then return status
      run ⟨false, tested⟩ body
      let status := (← get).status
      match ← endRound with
      | .left => return status
      | _ => loopFrom tested until_ cond body fuel status

def eachFrom (tested : Bool) (name : Bytes) (body : Command) : List Bytes → Nat → Sh Nat
  | [], status => return status
  | v :: rest, _ => do
    Sh.setVar name (some v)
    run ⟨false, tested⟩ body
    let status := (← get).status
    match ← endRound with
    | .left => return status
    | _ => eachFrom tested name body rest status

/-- run `body` one loop deeper -/
def inLoop (body : Sh Nat) : Sh Unit := do
  modify fun m => { m with loops := m.loops + 1 }
  let status ← body
  modify fun m => { m with loops := m.loops - 1 }
  Sh.setStatus status

/-- whether one of several patterns accepts a text -/
def acceptsAny (subject : Bytes) : List Word → Sh Bool
  | [] => return false
  | w :: rest => do
    let p ← Expansion.patternOf (output run) w
    if p.accepts subject then return true
    acceptsAny subject rest

def selectFrom (fl : Flags) (subject : Bytes) : List (List Word × Option Command) → Sh Unit
  | [] => Sh.setStatus 0
  | (patterns, body) :: rest => do
    if ← acceptsAny run subject patterns then
      match body with
      | some c => run fl c
      | none => Sh.setStatus 0
    else selectFrom fl subject rest

/-- remember where the program of a pipeline's stage is, if it is plain to see -/
def lookAhead (c : Command) : Sh Unit := do
  match c with
  | .simple _ _ (w :: _) _ =>
    match Word.plain? w with
    | some name =>
      if isName name then
        let _ ← Search.find (load run) { path := (← get).path } name
    | none => return
  | _ => return

/-- start the stages of a pipeline, each reading what the one before writes -/
def stagesFrom (number : Nat) (inBackground tested : Bool) (input : Option Nat) :
    List Command → Sh Unit
  | [] => return
  | c :: rest => do
    lookAhead run c
    let ends ← if rest.isEmpty then pure none else do pure (some (← Redirection.openPipe))
    Sh.fork (some number) inBackground (Script.conclude run) do
      if let some (r, _) := ends then Sh.act (Act.close r)
      if let some fd := input then install fd 0
      if let some (_, w) := ends then install w 1
      run ⟨true, tested⟩ c
    if let some fd := input then Sh.act (Act.close fd)
    if let some (_, w) := ends then Sh.act (Act.close w)
    stagesFrom number inBackground tested (ends.map Prod.fst) rest

def pipeline (fl : Flags) (stages : List Command) (inBackground : Bool) : Sh Unit := do
  let number ← Sh.newJob
  stagesFrom run number inBackground fl.tested none stages
  if inBackground then Sh.setStatus 0 else Sh.finishJob number

/-- run commands with redirections that last, as the end of a process -/
def lastly (fl : Flags) (c : Command) (targets : List Redirection.Target) : Sh Unit := do
  targets.forM (Redirection.apply (output run) false)
  run { fl with last := true } c

def subshell (fl : Flags) (line : Nat) (c : Command) (redirects : List Redirect) : Sh Unit := do
  atLine line
  let targets ← redirects.mapM (Redirection.targetOf (output run))
  if fl.last && !hasTraps (← get) then lastly run fl c targets
  else
    let number ← Sh.newJob
    Sh.fork (some number) false (Script.conclude run) (lastly run fl c targets)
    Sh.finishJob number

def background (line : Nat) (c : Command) (redirects : List Redirect) : Sh Unit := do
  atLine line
  let targets ← redirects.mapM (Redirection.targetOf (output run))
  let number ← Sh.newJob
  Sh.fork (some number) true (Script.conclude run) (lastly run ⟨true, false⟩ c targets)
  Sh.setStatus 0

def define (line : Nat) (name : Bytes) (body : Command) : Sh Unit := modify fun m =>
  { m with
    functions := (name, line, body) :: m.functions.filter (·.1 ≠ name)
    remembered := m.remembered.filter fun r => r.name ≠ name
    status := 0 }

/-- run a command of any kind; the answer is whether its failure may end the shell -/
def dispatch (fl : Flags) (c : Command) : Sh Bool := do
  match c with
  | .simple line assigns words redirects =>
    simple run fl line assigns words redirects
    return true
  | .pipeline stages inBackground =>
    pipeline run fl stages inBackground
    return true
  | .subshell line c redirects =>
    subshell run fl line c redirects
    return true
  | .background line c redirects =>
    background run line c redirects
    return true
  | .redirected line c redirects =>
    atLine line
    let targets ← redirects.mapM (Redirection.targetOf (output run))
    Redirection.during (output run) targets fun made => do
      if made then run ⟨false, fl.tested⟩ c else Sh.setStatus 2
      return false
    return true
  | .negation c =>
    run ⟨false, true⟩ c
    modify fun m =>
      if m.skip.isSome then m else { m with status := if m.status = 0 then 1 else 0 }
    return false
  | .both a b =>
    run ⟨false, true⟩ a
    let m ← get
    if m.status = 0 && m.skip.isNone then run fl b
    return false
  | .either a b =>
    run ⟨false, true⟩ a
    let m ← get
    if m.status ≠ 0 && m.skip.isNone then run fl b
    return false
  | .sequence a b =>
    run ⟨false, fl.tested⟩ a
    if (← get).skip.isNone then run fl b
    return false
  | .conditional cond yes no =>
    run ⟨false, true⟩ cond
    let m ← get
    if m.skip.isNone then
      if m.status = 0 then run fl yes
      else match no with
        | some c => run fl c
        | none => Sh.setStatus 0
    return false
  | .loop until_ cond body =>
    inLoop (loopFrom run fl.tested until_ cond body Act.patience 0)
    return false
  | .forEach line name words body =>
    atLine line
    let values ← argumentsFrom run false words
    inLoop (eachFrom run fl.tested name body values 0)
    return false
  | .select line w clauses =>
    atLine line
    let subject ← Expansion.textOf (output run) w
    selectFrom run fl subject clauses
    return false
  | .define line name body =>
    define line name body
    return false

/-- run a command, and the actions on signals that come before and after it -/
def step (fl : Flags) (c : Command) : Sh Unit := do
  let mayEnd ← if ← Sh.hasOption 'n' then pure false
    else do
      Script.runTraps run
      dispatch run fl c
  Script.runTraps run
  let m ← get
  let fails := mayEnd && !fl.tested && m.status ≠ 0 && m.options.contains 'e'
  if fails || fl.last then throw .finished

end Evaluation

/-- how deep commands may stand in each other -/
def maxNesting : Nat := 1000000000

/-- run commands that stand in each other to a depth of less than `fuel` -/
def runTo : Nat → Runner
  | 0 => fun _ _ => throw .mistake
  | fuel + 1 => Evaluation.step (runTo fuel)

def run : Runner := runTo maxNesting

end JarLauncher.Shell
