import JarLauncher.Log.FieldPattern.Syntax
import JarLauncher.Text.Alphanumeric
import JarLauncher.Text.Quoted

/-! The text of a pattern read as its syntax. Where the pattern is spaced, blanks and comments in
it mean nothing, in classes of characters too. -/

namespace JarLauncher.Log.FieldPattern

open Text.Quoted (hexValue?)

/-- the text past the blanks and comments in front; a comment goes from `#` to the line's end -/
def pastBlanks (inComment : Bool) : List Char → List Char
  | [] => []
  | c :: cs =>
    if inComment then pastBlanks (c ≠ '\n') cs
    else if Text.isBlank c then pastBlanks false cs
    else if c = '#' then pastBlanks true cs
    else c :: cs

def skip (spaced : Bool) (cs : List Char) : List Char :=
  if spaced then pastBlanks false cs else cs

/-! ### Escapes -/

/-- a number of so many hexadecimal digits -/
def readHex? (spaced : Bool) (digits value : Nat) (cs : List Char) : Option (Nat × List Char) :=
  match digits, cs with
  | 0, _ => some (value, cs)
  | _ + 1, [] => none
  | digits + 1, c :: rest => do
    readHex? spaced digits (value * 16 + (← hexValue? c)) (skip spaced rest)

/-- the character of the number that `digits` digits write -/
def readCodePoint? (spaced : Bool) (digits : Nat) (cs : List Char) : Option (Node × List Char) := do
  let (value, rest) ← readHex? spaced digits 0 (skip spaced cs)
  if value.isValidChar then some (.literal ⟨Char.ofNat value, digits = 2⟩, rest) else none

/-- characters that a backslash makes plain, or leaves so -/
def isEscapable (c : Char) : Bool := c.toNat < 0x80 && !c.isAlphanum && c ≠ '<' && c ≠ '>'

/-- what a backslash and the text after it stand for -/
def readEscape? (spaced : Bool) : List Char → Option (Node × List Char)
  | [] => none
  | c :: rest =>
    if c = 'x' then readCodePoint? spaced 2 rest
    else if c = 'u' then readCodePoint? spaced 4 rest
    else if c = 'U' then readCodePoint? spaced 8 rest
    else if "dsw".toList.contains c then some (.shorthand false, rest)
    else if "DSW".toList.contains c then some (.shorthand true, rest)
    else if "Az".toList.contains c then some (.edge, rest)
    else if "bB<>".toList.contains c then some (.wordEdge, rest)
    else if isEscapable c || "afnrtv".toList.contains c then
      some (.literal (.ofChar c), rest)
    else none

/-! ### Classes of characters -/

/-- a class that is being read -/
structure ClassLevel where
  negated : Bool
  /-- only hyphens were read, so a hyphen is plain -/
  atFront : Bool
  /-- what stands left of the operator that was read last -/
  left : Option (ClassOp × Class)
  /-- the parts since then, the last one first -/
  parts : List Class

namespace ClassLevel

def push (l : ClassLevel) (c : Class) : ClassLevel :=
  { l with atFront := false, parts := c :: l.parts }

/-- all that was read; operators take what is left of them as a whole -/
def inner (l : ClassLevel) : Class :=
  let right := Class.ofParts l.parts.reverse
  match l.left with
  | none => right
  | some (op, left) => .combined op left right

def combine (l : ClassLevel) (op : ClassOp) : ClassLevel :=
  { l with atFront := false, left := some (op, l.inner), parts := [] }

def close (l : ClassLevel) : Class := .bracket l.negated l.inner

end ClassLevel

/-- the class whose `[` was read, and the text past that and a `^` -/
def openClass (spaced : Bool) (cs : List Char) : ClassLevel × List Char :=
  match skip spaced cs with
  | '^' :: rest => (⟨true, true, none, []⟩, rest)
  | cs => (⟨false, true, none, []⟩, cs)

def asciiNames : List String :=
  ["alnum", "alpha", "ascii", "blank", "cntrl", "digit", "graph", "lower", "print", "punct",
    "space", "upper", "word", "xdigit"]

/-- a class of ASCII by its name, whose `[` was read -/
def readAscii? : List Char → Option (Class × List Char)
  | ':' :: cs =>
    let (negated, cs) := match cs with
      | '^' :: more => (true, more)
      | _ => (false, cs)
    match cs.span (· ≠ ':') with
    | (name, ':' :: ']' :: rest) =>
      if asciiNames.contains (String.ofList name) then some (.ascii negated, rest) else none
    | _ => none
  | _ => none

/-- a single character, or what a backslash stands for -/
def readMember? (spaced : Bool) : List Char → Option (Node × List Char)
  | [] => none
  | '\\' :: rest => readEscape? spaced rest
  | c :: rest => some (.literal (.ofChar c), rest)

/-- the character that follows a hyphen; of a comment that stands between, only the mark is
passed over -/
def afterHyphen? (spaced : Bool) (cs : List Char) : Option Char :=
  if spaced then
    match cs.dropWhile Text.isBlank with
    | '#' :: rest => (rest.dropWhile Text.isBlank).head?
    | cs => cs.head?
  else cs.head?

/-- a part of a class: a member, or a range from one character up to another -/
def readPart? (spaced : Bool) (cs : List Char) : Option (Class × List Char) := do
  let (low, rest) ← readMember? spaced cs
  match skip spaced rest with
  | '-' :: more =>
    let next := afterHyphen? spaced more
    if next = some ']' ∨ next = some '-' then return (← low.toClass?, '-' :: more)
    else
      let (high, rest) ← readMember? spaced (skip spaced more)
      let low ← low.toLiteral?
      let high ← high.toLiteral?
      if low.char ≤ high.char then some (.range low high, rest) else none
  | rest => return (← low.toClass?, rest)

/-- a class up to its end, with the classes around it -/
def readClass? (spaced : Bool) (fuel : Nat) (level : ClassLevel) (around : List ClassLevel)
    (cs : List Char) : Option (Class × List Char) :=
  match fuel with
  | 0 => none
  | fuel + 1 =>
    let hyphen := Class.literal (.ofChar '-')
    match skip spaced cs with
    | [] => none
    | '[' :: rest =>
      match readAscii? rest with
      | some (c, more) => readClass? spaced fuel (level.push c) around more
      | none =>
        let (inner, more) := openClass spaced rest
        readClass? spaced fuel inner ({ level with atFront := false } :: around) more
    | ']' :: rest =>
      if level.atFront ∧ level.parts.isEmpty then
        readClass? spaced fuel (level.push (.literal (.ofChar ']'))) around rest
      else match around with
        | [] => some (level.close, rest)
        | outer :: around => readClass? spaced fuel (outer.push level.close) around rest
    | '&' :: '&' :: rest => readClass? spaced fuel (level.combine .intersection) around rest
    | '~' :: '~' :: rest => readClass? spaced fuel (level.combine .symmetricDifference) around rest
    | '-' :: rest =>
      if level.atFront then
        readClass? spaced fuel { level with parts := hyphen :: level.parts } around rest
      else match rest with
        | '-' :: more => readClass? spaced fuel (level.combine .difference) around more
        | _ => do
          let (c, rest) ← readPart? spaced ('-' :: rest)
          readClass? spaced fuel (level.push c) around rest
    | cs => do
      let (c, rest) ← readPart? spaced cs
      readClass? spaced fuel (level.push c) around rest

/-! ### Groups -/

/-- a group that is being read -/
structure Level where
  switches : Switches
  /-- whether the text around it is spaced -/
  spacedAround : Bool
  /-- the branches that ended, the last one first -/
  branches : List Node
  /-- what was read of its branch, the last node first -/
  nodes : List Node

namespace Level

def opened (switches : Switches) (spacedAround : Bool) : Level := ⟨switches, spacedAround, [], []⟩

def push (l : Level) (n : Node) : Level := { l with nodes := n :: l.nodes }

def endBranch (l : Level) : Level :=
  { l with branches := .ofSequence l.nodes.reverse :: l.branches, nodes := [] }

def inner (l : Level) : Node := .ofBranches l.endBranch.branches.reverse

end Level

/-- how far a pattern was read -/
structure Reading where
  spaced : Bool
  /-- the names that groups have -/
  names : List (List Char)
  level : Level
  around : List Level

namespace Reading

def start : Reading := ⟨false, [], .opened .none false, []⟩

def push (r : Reading) (n : Node) : Reading := { r with level := r.level.push n }

def openGroup (r : Reading) (s : Switches) : Reading :=
  { r with
    spaced := s.apply .spaced r.spaced
    level := .opened s r.spaced
    around := r.level :: r.around }

def switch (r : Reading) (s : Switches) : Reading :=
  { r.push (.switched s) with spaced := s.apply .spaced r.spaced }

def closeGroup? (r : Reading) : Option Reading :=
  match r.around with
  | [] => none
  | outer :: around =>
    some { r with
      spaced := r.level.spacedAround
      level := outer.push (.group r.level.switches r.level.inner)
      around }

def repeatLast? (r : Reading) : Option Reading :=
  match r.level.nodes with
  | n :: ns =>
    if n.isRepeatable then some { r with level := { r.level with nodes := .repeated n :: ns } }
    else none
  | [] => none

end Reading

def isGroupName : List Char → Bool
  | [] => false
  | c :: cs =>
    (c = '_' || Text.isAlphabetic c) &&
      cs.all fun c => "_.[]".toList.contains c || Text.isAlphanumeric c

/-- a group with a name, past the `<` -/
def nameGroup? (r : Reading) (cs : List Char) : Option (Reading × List Char) :=
  match cs.span (· ≠ '>') with
  | (name, _ :: rest) =>
    if isGroupName name ∧ name ∉ r.names then
      some ({ r with names := name :: r.names }.openGroup .none, rest)
    else none
  | _ => none

/-- what an opening parenthesis starts: a group, or switches for the rest of the group around -/
def readGroup? (r : Reading) (cs : List Char) : Option (Reading × List Char) :=
  match skip r.spaced cs with
  | '?' :: 'P' :: '<' :: rest | '?' :: '<' :: rest => nameGroup? r rest
  | '?' :: rest => do
    let (letters, rest) := rest.span fun c => c ≠ ':' && c ≠ ')'
    let switches ← Switches.ofText? letters
    match rest with
    | ':' :: more => some (r.openGroup switches, more)
    | _ :: more => if letters = [] then none else some (r.switch switches, more)
    | [] => none
  | rest => some (r.openGroup .none, rest)

/-- past the first character of the text -/
def step? (r : Reading) (c : Char) (rest : List Char) : Option (Reading × List Char) :=
  match c with
  | '(' => readGroup? r rest
  | ')' => r.closeGroup?.map (·, rest)
  | '|' => some ({ r with level := r.level.endBranch }, rest)
  | '[' => do
    let (level, more) := openClass r.spaced rest
    let (c, rest) ← readClass? r.spaced (rest.length + 1) level [] more
    return (r.push (.charClass c), rest)
  | '*' | '+' | '?' => do
    let r ← r.repeatLast?
    return (r, if rest.head? = some '?' then rest.drop 1 else rest)
  | '\x7b' => none
  | '.' => some (r.push .dot, rest)
  | '^' | '$' => some (r.push .edge, rest)
  | '\\' => do
    let (n, rest) ← readEscape? r.spaced rest
    return (r.push n, rest)
  | c => some (r.push (.literal (.ofChar c)), rest)

def readFrom? (fuel : Nat) (r : Reading) (cs : List Char) : Option Node :=
  match fuel with
  | 0 => none
  | fuel + 1 =>
    match skip r.spaced cs with
    | [] => if r.around.isEmpty then some r.level.inner else none
    | c :: rest => do
      let (r, rest) ← step? r c rest
      readFrom? fuel r rest

/-- the pattern that a text writes -/
def read? (cs : List Char) : Option Node := readFrom? (cs.length + 1) .start cs

end JarLauncher.Log.FieldPattern
