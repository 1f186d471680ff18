import JarLauncher.Tool.Launching
import JarLauncher.Tool.Place
import JarLauncher.Tool.Signalling

/-! The variables that programs are started with: shown, and changed for one program. Arguments may
stand in one text, which is taken apart in a way of its own. -/

namespace JarLauncher.Tool

open Unix
open Shell (text newline chr)

/-- variables with one set or changed -/
def setVariable (env : List (Bytes × Bytes)) (name value : Bytes) : List (Bytes × Bytes) :=
  if (env.lookup name).isSome then env.map fun e => if e.1 = name then (name, value) else e
  else env ++ [(name, value)]

/-- a text as it is taken apart into arguments -/
structure Split where
  done : List Bytes := []
  current : Option Bytes := none
  quote : Option UInt8 := none

namespace Split

def add (s : Split) (bs : Bytes) : Split := { s with current := some (s.current.getD [] ++ bs) }

def finish (s : Split) : Split := { s with done := s.done ++ s.current.toList, current := none }

/-- the name in a text that starts with `${` and a name and `}`, and what follows it -/
def reference? (bs : Bytes) : Option (Bytes × Bytes) :=
  match bs with
  | 36 :: 123 :: rest =>
    let (name, after) := rest.span Shell.isNameChar
    if name.head?.any Shell.isNameStart ∧ after.head? = some 125 then some (name, after.drop 1)
    else none
  | _ => none

/-- what a letter stands for behind a backslash; signs that mean something stand for themselves -/
def escape? (b : UInt8) : Option UInt8 :=
  match chr b with
  | 'f' => some 12
  | 'n' => some 10
  | 'r' => some 13
  | 't' => some 9
  | 'v' => some 11
  | _ => if [34, 35, 36, 39, 92].contains b then some b else none

/-- take a text apart with variables as they are; or what is wrong with it -/
def run (env : List (Bytes × Bytes)) : Nat → Split → Bytes → Except (List Bytes) Split
  | 0, s, _ => .ok s
  | _, s, [] => if s.quote.isSome then .error [text "no terminating quote in -S string"] else .ok s
  | fuel + 1, s, b :: rest =>
    let isSingle := s.quote = some 39
    let isDouble := s.quote = some 34
    let plain : Except (List Bytes) Split := run env fuel (s.add [b]) rest
    match b with
    | 39 =>
      if isDouble then plain
      else run env fuel { s.add [] with quote := if isSingle then none else some b } rest
    | 34 =>
      if isSingle then plain
      else run env fuel { s.add [] with quote := if isDouble then none else some b } rest
    | 35 => if s.current.isSome ∨ s.quote.isSome then plain else .ok s
    | 92 =>
      match rest with
      | c :: after =>
        if isSingle ∧ c ≠ 39 ∧ c ≠ 92 then plain
        else if c = 95 then
          if isDouble then run env fuel (s.add [32]) after else run env fuel s.finish after
        else if c = 99 then
          if isDouble then
            .error [text "'\\c' must not appear in double-quoted -S string"]
          else .ok s
        else match escape? c with
          | some d => run env fuel (s.add [d]) after
          | none => .error [text "invalid sequence '\\", [c], text "' in -S"]
      | [] =>
        if isSingle then plain else .error [text "invalid backslash at end of string in -S"]
    | 36 =>
      if isSingle then plain
      else match reference? (b :: rest) with
        | none =>
          .error [text "only $\x7bVARNAME\x7d expansion is supported, error at: ", b :: rest]
        | some (name, after) =>
          run env fuel (match env.lookup name with
            | some value => s.add value
            | none => s) after
    | _ =>
      if s.quote.isNone ∧ Count.isBlank b then run env fuel s.finish rest else plain

/-- the arguments in a text -/
def arguments (env : List (Bytes × Bytes)) (bs : Bytes) : Except (List Bytes) (List Bytes) :=
  (run env (bs.length + 1) {} bs).map fun s => s.finish.done

end Split

structure Env where
  empty : Bool := false
  unset : List Bytes := []
  nulEnded : Bool := false
  dir : Option Bytes := none
  /-- everything that is done is told -/
  tells : Bool := false
  /-- what the program does about signals -/
  dispositions : List (Signal × Disposition) := []
  /-- signals that are held back -/
  blocked : List Signal := []
  listsSignals : Bool := false

namespace Env

def menu : Menu :=
  { letters := "C:iS:u:v0 \t\n\x0b\x0c\r"
    words := [flag "ignore-environment" 'i', flag "null" '0', valued "unset" 'u',
      valued "chdir" 'C', ⟨"default-signal", .optional, 'd'⟩, ⟨"ignore-signal", .optional, 'n'⟩,
      ⟨"block-signal", .optional, 'b'⟩, flag "list-signal-handling" 'l', flag "debug" 'v',
      valued "split-string" 'S']
    ordered := true }

def tell (e : Env) (words : List Bytes) : Work Unit :=
  if e.tells then Work.say (words ++ [[newline]]) else return

/-- the signals that a value names, all of them if there is none -/
def signals (value : Option Bytes) : Work (List Signal) := do
  match value with
  | none => return ((List.range 31).map (· + 1)).filter fun s => s ≠ Signal.kill ∧ s ≠ Signal.stop
  | some value => (Path.splitOn 44 value).mapM signalOption

def setDispositions (e : Env) (value : Option Bytes) (d : Disposition) : Work Env := do
  let goals ← signals value
  return { e with dispositions := e.dispositions ++ goals.map (·, d) }

def take (e : Env) (g : Given) : Work Env := do
  match g.letter with
  | 'i' => return { e with empty := true }
  | '0' => return { e with nulEnded := true }
  | 'C' => return { e with dir := g.value }
  | 'u' => return { e with unset := e.unset ++ [g.value.getD []] }
  | 'v' => return { e with tells := true }
  | 'd' => e.setDispositions g.value .default
  | 'n' => e.setDispositions g.value .ignored
  | 'b' => return { e with blocked := e.blocked ++ (← signals g.value) }
  | 'l' => return { e with listsSignals := true }
  | '?' => throw 0
  | c =>
    Work.complain [text "invalid option -- '", text (String.ofList [c]), text "'"]
    Work.misuse [text "use -[v]S to pass options in shebang lines"]

/-- take the options up to one whose text is to be taken apart, and the arguments that come of it -/
def takeUpTo (e : Env) (args : List Bytes) :
    Work (Except (Env × List Bytes) (Env × List Bytes)) := do
  let t := menu.complete.take args
  let mut e := e
  for g in t.options do
    if g.letter = 'S' then
      let line := g.value.getD []
      match Split.arguments (← get).env line with
      | .error words => Work.fail words
      | .ok parts =>
        let all := parts ++ args.drop (args.length - g.behind)
        e.tell [text "split -S:  ", Quoting.plain line]
        for (part, i) in parts.zipIdx do
          e.tell [text (if i = 0 then " into:    " else "     &    "), Quoting.plain part]
        return .ok (e, all)
    e ← e.take g
  if let some words := t.fault then Work.misuse words
  return .error (e, t.operands)

def isUnfit (name : Bytes) : Bool := name = [] || name.contains 61

/-- the variables for the program -/
def apply (e : Env) (settings : List Bytes) : Work (List (Bytes × Bytes)) := do
  let mut env := (← get).env
  if e.empty then
    e.tell [text "cleaning environ"]
    env := []
  else
    for name in e.unset do
      e.tell [text "unset:    ", name]
      if isUnfit name then
        Work.fail [text "cannot unset ", Quoting.plain name, text ": ", reason Errno.invalid]
      env := env.filter fun x => x.1 ≠ name
  for x in settings do
    e.tell [text "setenv:   ", x]
    let (name, value) := x.span (· ≠ 61)
    env := setVariable env name (value.drop 1)
  return env

/-- set what the program does about signals -/
def settle (e : Env) : Work Unit := do
  for (s, d) in e.dispositions do
    if s = Signal.kill ∨ s = Signal.stop then
      Work.fail [text "failed to set signal action for signal ", Shell.decimal s, text ": ",
        reason Errno.invalid]
    Work.act (Act.setDisposition s d)
  if e.listsSignals then
    let ignored ← Work.act (Act.ask fun p s => (s.process? p).map fun x => x.dispositions)
    for (s, name) in Signal.names do
      let words := (if e.blocked.contains s then ["BLOCK"] else []) ++
        if ignored.any fun d => d s = .ignored then ["IGNORE"] else []
      if !words.isEmpty then
        let number := Shell.decimal s
        Work.say [text name, List.replicate (10 - name.length) 32, text " (",
          List.replicate (2 - number.length) 32, number, text "): ",
          text (String.intercalate "," words), [newline]]

def run (e : Env) (env : List (Bytes × Bytes)) (command : List Bytes) : Work Unit := do
  e.settle
  if let some dir := e.dir then
    e.tell [text "chdir:    ", Quoting.always dir]
    let refused ← Work.alter fun p s => do
      let n ← s.tree.chdir (s.cwd p) dir
      return s.modify p fun x => { x with cwd := n }
    if let some fault := refused then
      Work.fail [text "cannot change directory to ", Quoting.always dir, text ": ", reason fault]
  let program := command.headD []
  e.tell [text "executing: ", program]
  for (x, i) in command.zipIdx do
    e.tell [text "   arg[", Shell.decimal i, text "]= ", Quoting.plain x]
  Work.flush
  let fault ← Work.act (Act.execNamed program command env)
  Work.complain [Quoting.plain program, text ": ", reason fault]
  if fault = Errno.noEntry ∧ program.any Count.isBlank then
    Work.complain [text "use -[v]S to pass options in shebang lines"]
  throw (Work.unstarted fault)

end Env

/-- Run a program with other variables, or show them. -/
def env : Routine := fun args => do
  let (e, operands) ← Work.loop (({} : Env), args) fun (e, args) => e.takeUpTo args
  let (e, operands) := match operands with
    | [45] :: rest => ({ e with empty := true }, rest)
    | _ => (e, operands)
  let (settings, command) := operands.span fun x => x.contains 61
  let env ← e.apply settings
  if e.nulEnded ∧ !command.isEmpty then
    Work.misuse [text "cannot specify --null (-0) with command"]
  if e.dir.isSome ∧ command.isEmpty then
    Work.misuse [text "must specify command with --chdir (-C)"]
  if !command.isEmpty then e.run env command
  for (name, value) in env do
    Work.put (name ++ 61 :: value ++ [if e.nulEnded then 0 else newline])

def printenv : Routine := fun args => do
  let menu : Menu := { letters := "iu:0", words := [flag "null" '0'], ordered := true }
  let (on, names) ← Work.flags menu args
  let env := (← get).env
  let ending := if on.contains '0' then 0 else newline
  if names.isEmpty then
    for (name, value) in env do
      Work.put (name ++ 61 :: value ++ [ending])
  for name in names do
    match if name.contains 61 then none else env.lookup name with
    | some value => Work.put (value ++ [ending])
    | none => modify fun d => { d with status := 1 }

end JarLauncher.Tool
