import JarLauncher.Tool.Mode
import JarLauncher.Tool.Transfer.Backup

/-! What a search asks of each file: tests and actions, put together by signs. Signs stand as
arguments of their own, and the first argument that fits nowhere ends the tool. -/

namespace JarLauncher.Tool.Find

open Unix
open Shell (text)

/-- how the permissions of a file are compared with some bits -/
inductive Fit where
  | exactly
  /-- it has all of them -/
  | all
  /-- it has one of them, unless there are none -/
  | any
  deriving DecidableEq

inductive Query where
  | constant (b : Bool)
  | name (pattern : Bytes) (folds : Bool)
  | path (pattern : Bytes) (folds : Bool)
  /-- one of these letters is its kind's -/
  | kind (letters : Bytes)
  | empty
  | newer (changed : Nat)
  | size (order : Ordering) (count unit : Nat)
  | permits (fit : Fit) (bits : Nat)
  /-- someone may run it, or enter it -/
  | runnable
  | print (ending : UInt8)
  | prune
  | delete
  | quit
  /-- run a command with each file -/
  | run (command : List Bytes)
  /-- run a command with many files, that are gathered under a number -/
  | gather (command : List Bytes) (number : Nat)
  | negated (q : Query)
  | both (a b : Query)
  | either (a b : Query)
  /-- the second answer, after the first was found -/
  | sequence (a b : Query)

/-- what is known of a search before it starts -/
structure Plan where
  least : Nat := 0
  most : Nat := deepest
  /-- what a directory holds comes before it -/
  fromBelow : Bool := false
  /-- something other than tests was asked for -/
  acts : Bool := false
  /-- the commands that gather files -/
  gatherers : List (List Bytes) := []

/-- the arguments that are still to be read -/
structure Reading where
  plan : Plan
  rest : List Bytes

abbrev Read := StateT Reading Work

def lift {α : Type} (w : Work α) : Read α := liftM w

def fault {α : Type} (words : List Bytes) : Read α := lift (Work.fail words)

def peek : Read (Option Bytes) := return (← get).rest.head?

def skip : Read Unit := modify fun r => { r with rest := r.rest.drop 1 }

def plan (f : Plan → Plan) : Read Unit := modify fun r => { r with plan := f r.plan }

/-- an action: what is found is not printed unless that is asked for -/
def action (q : Query) : Read Query := do
  plan fun p => { p with acts := true }
  return q

/-- the value of a test -/
def value (test : Bytes) : Read Bytes := do
  match ← peek with
  | some v =>
    skip
    return v
  | none => fault [text "missing argument to ", 96 :: test ++ [39]]

def depthValue (test : Bytes) : Read Nat := do
  let v ← value test
  match Shell.natOf? v with
  | some n => return n
  | none => fault [text "Expected a positive decimal integer argument to ", test, text ", but got ",
      Quoting.always v]

/-- the words of a command up to its end, a semicolon or a plus sign behind the mark of a file;
whether it was a plus sign -/
def command (test : Bytes) : Nat → Bool → List Bytes → Read (List Bytes × Bool)
  | 0, _, _ => fault []
  | fuel + 1, marked, words => do
    match ← peek with
    | none => fault [text "missing argument to ", 96 :: test ++ [39]]
    | some word =>
      skip
      if word = [59] then
        if words.isEmpty then
          fault [text "invalid argument ", 96 :: word ++ [39], text " to ", 96 :: test ++ [39]]
        return (words, false)
      if word = [43] ∧ marked then return (words.dropLast, true)
      command test fuel (word = fileMark) (words ++ [word])
where
  fileMark : Bytes := [123, 125]

def kinds (test : Bytes) : Read Query := do
  let v ← value test
  let parts := Path.splitOn 44 v
  for part in parts do
    match part with
    | [b] => if !(text "bcdpfls").contains b then fault [text "Unknown argument to -type: ", part]
    | b :: _ =>
      if !(text "bcdpfls").contains b then fault [text "Unknown argument to -type: ", [b]]
      fault [text "Must separate multiple arguments to -type using: ','"]
    | [] => fault [text "Unknown argument to -type: "]
  return .kind parts.flatten

def sizes (test : Bytes) : Read Query := do
  let v ← value test
  let (order, body) : Ordering × Bytes := match v with
    | 43 :: body => (.gt, body)
    | 45 :: body => (.lt, body)
    | body => (.eq, body)
  let (digits, unit) := body.span Shell.isDigit
  let unit? : Option Nat := match unit.map Shell.chr with
    | [] | ['b'] => some 512
    | ['c'] => some 1
    | ['w'] => some 2
    | ['k'] => some 1024
    | ['M'] => some (1024 * 1024)
    | ['G'] => some (1024 * 1024 * 1024)
    | _ => none
  match Shell.natOf? digits, unit? with
  | some n, some unit => return .size order n unit
  | _, _ => fault [text "invalid -size type ", 96 :: unit ++ [39]]

def permissions (test : Bytes) : Read Query := do
  let v ← value test
  let (fit, body) : Fit × Bytes := match v with
    | 45 :: body => (.all, body)
    | 47 :: body => (.any, body)
    | body => (.exactly, body)
  match Mode.read? body with
  | some change => return .permits fit (change.apply 0 false 0)
  | none => fault [text "invalid mode ", Quoting.always v]

def newerThan (test : Bytes) : Read Query := do
  let v ← value test
  match ← lift (Work.node? v) with
  | .ok n => return .newer n.changed
  | .error e => fault [Quoting.always v, text ": ", reason e]

/-- one test or action, whose word was taken -/
def primary (word : Bytes) : Read Query := do
  let isWord (s : String) : Bool := word = text s
  if isWord "-name" then return .name (← value word) false
  else if isWord "-iname" then return .name (← value word) true
  else if isWord "-path" ∨ isWord "-wholename" then return .path (← value word) false
  else if isWord "-ipath" ∨ isWord "-iwholename" then return .path (← value word) true
  else if isWord "-type" then kinds word
  else if isWord "-empty" then return .empty
  else if isWord "-newer" then newerThan word
  else if isWord "-size" then sizes word
  else if isWord "-perm" then permissions word
  else if isWord "-executable" then return .runnable
  else if isWord "-true" ∨ isWord "-readable" ∨ isWord "-writable" then return .constant true
  else if isWord "-false" then return .constant false
  else if isWord "-mount" ∨ isWord "-xdev" ∨ isWord "-noleaf" ∨ isWord "-daystart" then
    return .constant true
  else if isWord "-depth" ∨ isWord "-d" then
    plan fun p => { p with fromBelow := true }
    return .constant true
  else if isWord "-maxdepth" then
    let n ← depthValue word
    plan fun p => { p with most := n }
    return .constant true
  else if isWord "-mindepth" then
    let n ← depthValue word
    plan fun p => { p with least := n }
    return .constant true
  else if isWord "-prune" then return .prune
  else if isWord "-quit" then action .quit
  else if isWord "-print" then action (.print Shell.newline)
  else if isWord "-print0" then action (.print 0)
  else if isWord "-delete" then
    plan fun p => { p with fromBelow := true }
    action .delete
  else if isWord "-exec" then
    let (words, gathers) ← command word ((← get).rest.length + 1) false []
    if gathers then
      let number := (← get).plan.gatherers.length
      plan fun p => { p with gatherers := p.gatherers ++ [words] }
      action (.gather words number)
    else action (.run words)
  else if word.head? = some 45 then fault [text "unknown predicate ", 96 :: word ++ [39]]
  else fault [text "paths must precede expression: ", 96 :: word ++ [39]]

def isOr (word : Bytes) : Bool := word = text "-o" || word = text "-or"

def isAnd (word : Bytes) : Bool := word = text "-a" || word = text "-and"

def isNot (word : Bytes) : Bool := word = [33] || word = text "-not"

def isOpen (word : Bytes) : Bool := word = [40]

def isClose (word : Bytes) : Bool := word = [41]

def isComma (word : Bytes) : Bool := word = [44]

mutual

/-- parts with commas between them -/
def list : Nat → Read Query
  | 0 => fault []
  | fuel + 1 => do
    let q ← alternatives fuel
    listFrom fuel q

def listFrom : Nat → Query → Read Query
  | 0, q => return q
  | fuel + 1, q => do
    if (← peek).any isComma then
      skip
      listFrom fuel (.sequence q (← alternatives fuel))
    else return q

def alternatives : Nat → Read Query
  | 0 => fault []
  | fuel + 1 => do
    let q ← conjunction fuel
    alternativesFrom fuel q

def alternativesFrom : Nat → Query → Read Query
  | 0, q => return q
  | fuel + 1, q => do
    if (← peek).any isOr then
      skip
      alternativesFrom fuel (.either q (← conjunction fuel))
    else return q

def conjunction : Nat → Read Query
  | 0 => fault []
  | fuel + 1 => do
    let q ← single fuel
    conjunctionFrom fuel q

def conjunctionFrom : Nat → Query → Read Query
  | 0, q => return q
  | fuel + 1, q => do
    match ← peek with
    | none => return q
    | some word =>
      if isOr word || isComma word || isClose word then return q
      if isAnd word then skip
      conjunctionFrom fuel (.both q (← single fuel))

def single : Nat → Read Query
  | 0 => fault []
  | fuel + 1 => do
    match ← peek with
    | none => fault [text "invalid expression"]
    | some word =>
      if isOr word || isAnd word || isComma word then
        fault [text "invalid expression; you have used a binary operator ", Quoting.always word,
          text " with nothing before it."]
      if isClose word then
        fault [text "invalid expression; you have too many ')'"]
      skip
      if isNot word then
        if (← peek).isNone then fault [text "expected an expression after ", Quoting.always word]
        return .negated (← single fuel)
      if isOpen word then
        if (← peek).any isClose then
          fault [text "invalid expression; empty parentheses are not allowed."]
        if (← peek).isNone then
          fault [text "invalid expression; expected to find a ')' but didn't see one. ",
            text "Perhaps you need an extra predicate after '('"]
        let q ← list fuel
        if !(← peek).any isClose then
          fault [text "invalid expression; I was expecting to find a ')' somewhere but did not ",
            text "see one."]
        skip
        return q
      primary word

end

/-- The query that arguments ask, which holds of all if there are none. What it finds is printed
if it does nothing else. -/
def query (args : List Bytes) : Work (Query × Plan) := do
  let (q, r) ← (if args.isEmpty then return .constant true
    else list (args.length * 8 + 8) : Read Query) ⟨{}, args⟩
  if !r.rest.isEmpty then Work.fail [text "you have too many ')'"]
  return (if r.plan.acts then q else .both q (.print Shell.newline), r.plan)

end JarLauncher.Tool.Find
