import JarLauncher.Tool.Regex

/-! Scripts that edit text line by line: the lines that a command is for, and what it does to
them. -/

namespace JarLauncher.Tool.Sed

open Shell (text chr newline)

inductive Address where
  | line (n : Nat)
  | last
  | pattern (r : Option Regex)
  /-- every so many lines from one on -/
  | every (first step : Nat)

/-- where a range that was entered ends -/
inductive Stop where
  | at_ (a : Address)
  | after (count : Nat)
  /-- at the next line whose number so much divides -/
  | multiple (n : Nat)

structure Selector where
  first : Option Address
  stop : Option Stop
  negated : Bool

/-- a part of what is put in the place of a match -/
inductive Piece where
  | octets (bs : Bytes)
  | group (n : Nat)

inductive Action where
  /-- what stands up to the command of the given number is for the lines alone -/
  | block (close : Nat)
  | nothing
  | substitute (r : Option Regex) (pieces : List Piece) (every_ prints : Bool) (nth : Nat)
      (file : Option Bytes)
  | transliterate (pairs : List (UInt8 × UInt8))
  | delete | deleteFirst
  | print | printFirst | number | list
  | next | appendNext
  | hold | appendHold | restore | appendRestore | exchange
  | append (bs : Bytes) | insert (bs : Bytes) | change (bs : Bytes)
  | branch (label : Bytes) (onlyChanged : Option Bool)
  | label (name : Bytes)
  | quit (status : Nat) (quiet : Bool)
  | read (file : Bytes) | write (file : Bytes)

structure Command where
  selector : Selector
  action : Action

/-- reading a script: what is left, and what a complaint is about -/
structure Reading where
  rest : Bytes
  done : Array Command
  /-- the blocks that are open, the innermost first -/
  open_ : List Nat

/-- what is wrong with a script: the octets that were left as that was found, or none if it is the
script as a whole -/
structure Fault where
  left : Option Nat
  message : String

abbrev Read := StateT Reading (Except Fault)

def fail {α : Type} (message : String) : Read α := do
  throw ⟨some (← get).rest.length, message⟩

def peek : Read (Option UInt8) := return (← get).rest.head?

def skip : Read Unit := modify fun s => { s with rest := s.rest.drop 1 }

def setRest (rest : Bytes) : Read Unit := modify fun s => { s with rest := rest }

def takeWhile (p : UInt8 → Bool) : Read Bytes := modifyGet fun s =>
  let (a, b) := s.rest.span p
  (a, { s with rest := b })

def isSpace (b : UInt8) : Bool := b == 32 || (9 ≤ b && b ≤ 13)

def skipBlanks : Read Unit := do
  let _ ← takeWhile Shell.isBlank

/-- the octets up to a delimiter; an escaped delimiter stands for itself -/
def upTo (delimiter : UInt8) (inPattern : Bool) :
    Nat → Bool → Bytes → Bytes → Option (Bytes × Bytes)
  | 0, _, _, _ => none
  | _, _, _, [] => none
  | fuel + 1, inBracket, done, 92 :: b :: rest =>
    if b = delimiter ∧ !inBracket then upTo delimiter inPattern fuel false (b :: done) rest
    else if b = 110 ∧ inPattern then upTo delimiter inPattern fuel inBracket (10 :: done) rest
    else upTo delimiter inPattern fuel inBracket (b :: 92 :: done) rest
  | fuel + 1, inBracket, done, b :: rest =>
    if b = delimiter ∧ !inBracket then some (done.reverse, rest)
    else if inPattern ∧ b = newline then none
    else
      let opens := inPattern && b = 91
      let inBracket := if inBracket then b ≠ 93 else opens
      match opens && inBracket, rest with
      | true, 94 :: 93 :: rest => upTo delimiter inPattern fuel true (93 :: 94 :: b :: done) rest
      | true, 93 :: rest => upTo delimiter inPattern fuel true (93 :: b :: done) rest
      | _, _ => upTo delimiter inPattern fuel inBracket (b :: done) rest

def delimited (delimiter : UInt8) (inPattern : Bool) (message : String) : Read Bytes := do
  let rest := (← get).rest
  match upTo delimiter inPattern (rest.length + 1) false [] rest with
  | some (bs, rest) =>
    setRest rest
    return bs
  | none =>
    setRest []
    fail message

/-- the expression that octets spell; nothing stands for the one that was used last -/
def regex (extended folds : Bool) (bs : Bytes) : Read (Option Regex × Nat) := do
  if bs = [] then return (none, 9)
  match Regex.read? { extended, folds, wary := true, strict := true } bs with
  | .ok (r, groups) => return (some r, groups)
  | .error message => fail message

def number : Read Nat := return Shell.natOf (← takeWhile Shell.isDigit)

def address? (extended : Bool) : Read (Option Address) := do
  match ← peek with
  | some 36 =>
    skip
    return some .last
  | some b =>
    if Shell.isDigit b then
      let n ← number
      if (← peek) = some 126 then
        skip
        return some (.every n (← number))
      return some (.line n)
    else if b = 47 ∨ b = 92 then
      skip
      let delimiter ← if b = 47 then pure b else do
        let d ← peek
        skip
        pure (d.getD 47)
      let bs ← delimited delimiter true "unterminated address regex"
      let folds := (← peek) = some 73
      if folds then skip
      return some (.pattern (← regex extended folds bs).1)
    else return none
  | none => return none

def selector (extended : Bool) : Read Selector := do
  let first ← address? extended
  skipBlanks
  let stop ← if first.isSome && (← peek) = some 44 then do
      skip
      skipBlanks
      match ← peek with
      | some 43 =>
        skip
        pure (some (Stop.after (← number)))
      | some 126 =>
        skip
        pure (some (Stop.multiple (← number)))
      | _ =>
        match ← address? extended with
        | some a => pure (some (Stop.at_ a))
        | none => fail "unexpected `,'"
    else pure none
  if first matches some (.line 0) then
    if !(stop matches some (.at_ (.pattern _))) then fail "invalid usage of line address 0"
  skipBlanks
  let negated := (← peek) = some 33
  if negated then
    let _ ← takeWhile fun b => b = 33 || Shell.isBlank b
  return ⟨first, stop, negated⟩

/-- the pieces of what is put in the place of a match -/
def pieces (bs : Bytes) : List Piece :=
  match bs with
  | [] => []
  | 92 :: b :: rest =>
    if Shell.isDigit b then .group (b.toNat - 48) :: pieces rest
    else
      let o : UInt8 := match chr b with
        | 'n' => 10
        | 't' => 9
        | 'r' => 13
        | 'f' => 12
        | 'v' => 11
        | 'a' => 7
        | _ => b
      .octets [o] :: pieces rest
  | 38 :: rest => .group 0 :: pieces rest
  | b :: rest => .octets [b] :: pieces rest

structure Flags where
  every_ : Bool := false
  prints : Bool := false
  folds : Bool := false
  nth : Nat := 1
  file : Option Bytes := none

def isEnd (b : UInt8) : Bool := b = newline || b = 59 || b = 125 || b = 35

def flags : Nat → Flags → Read Flags
  | 0, f => return f
  | fuel + 1, f => do
    match (← peek).map chr with
    | some 'g' =>
      skip
      flags fuel { f with every_ := true }
    | some 'p' =>
      skip
      flags fuel { f with prints := true }
    | some 'i' | some 'I' =>
      skip
      flags fuel { f with folds := true }
    | some 'w' =>
      skip
      skipBlanks
      return { f with file := some (← takeWhile (· ≠ newline)) }
    | some c =>
      if c.isDigit then
        let n ← number
        if n = 0 then fail "number option to `s' command may not be zero"
        flags fuel { f with nth := n }
      else if isEnd c.toNat.toUInt8 || Shell.isBlank c.toNat.toUInt8 then return f
      else
        skip
        fail "unknown option to `s'"
    | none => return f

def substitution (extended : Bool) : Read Action := do
  let delimiter := (← peek).getD newline
  skip
  let message := "unterminated `s' command"
  let pattern ← delimited delimiter true message
  let replacement ← delimited delimiter false message
  let f ← flags ((← get).rest.length + 1) {}
  let (r, groups) ← regex extended f.folds pattern
  let ps := pieces replacement
  let highest := ps.foldl (fun n p => match p with
    | .group k => max n k
    | .octets _ => n) 0
  if groups < highest then
    fail ("invalid reference \\" ++ toString highest ++ " on `s' command's RHS")
  return .substitute r ps f.every_ f.prints f.nth f.file

def unescaped : Bytes → Bytes
  | [] => []
  | 92 :: b :: rest => (if b = 110 then 10 else if b = 116 then 9 else b) :: unescaped rest
  | b :: rest => b :: unescaped rest

def transliteration : Read Action := do
  let delimiter := (← peek).getD newline
  skip
  let message := "unterminated `y' command"
  let a := unescaped (← delimited delimiter false message)
  let b := unescaped (← delimited delimiter false message)
  if a.length ≠ b.length then fail "strings for `y' command are different lengths"
  return .transliterate (a.zip b)

/-- the lines of a text; a backslash in front of a newline lets it go on -/
def textLines : Bytes → Bytes × Bytes
  | [] => ([], [])
  | 92 :: b :: rest =>
    let (a, rest) := textLines rest
    (b :: a, rest)
  | b :: rest =>
    if b = newline then ([], rest)
    else
      let (a, rest) := textLines rest
      (b :: a, rest)

def textOf : Read Bytes := do
  skipBlanks
  match (← get).rest with
  | [] => fail "expected \\ after `a', `c' or `i'"
  | 92 :: rest =>
    let rest := rest.dropWhile Shell.isBlank
    setRest (if rest.head? = some newline then rest.drop 1 else rest)
  | _ => pure ()
  let (bs, rest) := textLines (← get).rest
  setRest rest
  return bs ++ [newline]

def label : Read Bytes := do
  skipBlanks
  let bs ← takeWhile fun b => b ≠ newline && b ≠ 59
  return (bs.reverse.dropWhile isSpace).reverse

/-- what a command of one letter does -/
def simple? (c : Char) : Option Action :=
  match c with
  | 'd' => some .delete
  | 'D' => some .deleteFirst
  | 'p' => some .print
  | 'P' => some .printFirst
  | '=' => some .number
  | 'l' => some .list
  | 'n' => some .next
  | 'N' => some .appendNext
  | 'h' => some .hold
  | 'H' => some .appendHold
  | 'g' => some .restore
  | 'G' => some .appendRestore
  | 'x' => some .exchange
  | _ => none

/-- the end of a command -/
def finish : Read Unit := do
  skipBlanks
  match ← peek with
  | none => return
  | some b =>
    if b = newline ∨ b = 59 then skip
    else if b = 125 ∨ b = 35 then return
    else
      skip
      fail "extra characters after command"

def add (s : Selector) (a : Action) : Read Unit :=
  modify fun r => { r with done := r.done.push ⟨s, a⟩ }

def fileName : Read Bytes := do
  skipBlanks
  let name ← takeWhile (· ≠ newline)
  if name = [] then fail "missing filename in r/R/w/W commands"
  return name

def command (extended : Bool) (s : Selector) : Read Unit := do
  match ← peek with
  | none => fail "missing command"
  | some b =>
    skip
    let c := chr b
    match c with
    | '#' =>
      if s.first.isSome then fail "comments don't accept any addresses"
      let _ ← takeWhile (· ≠ newline)
    | ':' =>
      if s.first.isSome then fail ": doesn't want any addresses"
      let name ← label
      if name = [] then fail "\":\" lacks a label"
      add s (.label name)
    | '\x7b' =>
      modify fun r => { r with open_ := r.done.size :: r.open_ }
      add s .nothing
    | '\x7d' =>
      if s.first.isSome then fail "\x7d doesn't want any addresses"
      match (← get).open_ with
      | [] => fail "unexpected `\x7d'"
      | i :: more =>
        modify fun r => { r with
          open_ := more
          done := (r.done.modify i fun c =>
            { c with action := .block r.done.size }).push ⟨s, .nothing⟩ }
        finish
    | 's' =>
      add s (← substitution extended)
      finish
    | 'y' =>
      add s (← transliteration)
      finish
    | 'a' => add s (.append (← textOf))
    | 'i' => add s (.insert (← textOf))
    | 'c' => add s (.change (← textOf))
    | 'b' => add s (.branch (← label) none)
    | 't' => add s (.branch (← label) (some true))
    | 'T' => add s (.branch (← label) (some false))
    | 'r' => add s (.read (← fileName))
    | 'w' => add s (.write (← fileName))
    | 'q' | 'Q' =>
      if s.stop.isSome then fail "command only uses one address"
      skipBlanks
      add s (.quit (← number) (c = 'Q'))
      finish
    | _ =>
      match simple? c with
      | some a =>
        add s a
        finish
      | none =>
        if b = newline ∨ b = 59 then fail "missing command"
        fail ("unknown command: `" ++ String.ofList [c] ++ "'")

/-- the commands of a script, one after another -/
def commands (extended : Bool) : Nat → Read Unit
  | 0 => return
  | fuel + 1 => do
    let _ ← takeWhile fun b => isSpace b || b = 59
    if (← peek).isNone then return
    command extended (← selector extended)
    commands extended fuel

def read? (extended : Bool) (bs : Bytes) : Except Fault (Array Command) := do
  let ((), r) ← (commands extended (bs.length + 1)).run ⟨bs, #[], []⟩
  if !r.open_.isEmpty then throw ⟨some bs.length, "unmatched `\x7b'"⟩
  let labels := r.done.toList.filterMap fun c => match c.action with
    | .label name => some name
    | _ => none
  for c in r.done do
    if let .branch name _ := c.action then
      if name ≠ [] ∧ !labels.contains name then
        throw ⟨none, "can't find label for jump to `" ++ Utf8.lossy name ++ "'"⟩
  return r.done

end JarLauncher.Tool.Sed
