import JarLauncher.Tool.Work

/-! The options of a tool: letters behind a dash, of which several may stand together, and words
behind two dashes, which may be cut short as long as they stay clear. Options and operands may
mix. -/

namespace JarLauncher.Tool

open Shell (text chr)

inductive Arity where
  | none
  | required
  /-- a value that stands in the same argument, or none -/
  | optional
  deriving DecidableEq

/-- an option that is known by a word -/
structure LongName where
  word : String
  arity : Arity
  letter : Char

/-- the options that a tool knows -/
structure Menu where
  /-- the letters; one colon stands behind those with a value, two behind those that may have one -/
  letters : String
  words : List LongName := []
  /-- options stand only in front of the operands -/
  ordered : Bool := false

/-- an option as it was given -/
structure Given where
  letter : Char
  value : Option Bytes
  /-- how many arguments were left behind the one that it stands in -/
  behind : Nat := 0
  /-- it was given by its word -/
  isWord : Bool := false

/-- what arguments came to; `fault` is what was wrong after the options -/
structure Taken where
  options : List Given
  operands : List Bytes
  fault : Option (List Bytes)

namespace Menu

def arity? (m : Menu) (c : Char) : Option Arity :=
  if c = ':' ∨ c = '-' then .none
  else match m.letters.toList.dropWhile (· ≠ c) with
    | [] => .none
    | _ :: ':' :: ':' :: _ => some .optional
    | _ :: ':' :: _ => some .required
    | _ => some .none

/-- two words that ask for the same thing are no choice -/
def isSame (a b : LongName) : Bool := a.arity = b.arity && a.letter = b.letter

/-- the option that a word, maybe cut short, stands for; `whole` is the word with its value -/
def word? (m : Menu) (spelling whole : Bytes) : Except (List Bytes) LongName :=
  let named := text "'--" ++ whole ++ text "'"
  match m.words.find? fun w => text w.word = spelling with
  | some w => .ok w
  | none =>
    match m.words.filter fun w => spelling.isPrefixOf (text w.word) with
    | [] => .error [text "unrecognized option ", named]
    | w :: more =>
      let others := more.filter fun x => !isSame w x
      if others.isEmpty then .ok w
      else .error (text "option " :: named :: text " is ambiguous; possibilities:" ::
        (w :: others).map fun w => text (" '--" ++ w.word ++ "'"))

/-- put an option in front of those that come from the arguments behind it -/
def addOption (letter : Char) (value : Option Bytes) (behind : List Bytes) (t : Taken) : Taken :=
  { t with options := ⟨letter, value, behind.length, false⟩ :: t.options }

/-- the same for an option that was given by its word -/
def addWord (letter : Char) (value : Option Bytes) (behind : List Bytes) (t : Taken) : Taken :=
  { t with options := ⟨letter, value, behind.length, true⟩ :: t.options }

def addOperand (x : Bytes) (t : Taken) : Taken := { t with operands := x :: t.operands }

def fault (words : List Bytes) : Taken := ⟨[], [], some words⟩

/-- take the letters of `word` and then arguments -/
def takeFrom (m : Menu) : Nat → Bytes → List Bytes → Taken
  | 0, _, args => ⟨[], args, none⟩
  | fuel + 1, b :: letters, args =>
    match m.arity? (chr b) with
    | none => fault [text "invalid option -- '", [b], text "'"]
    | some .none => addOption (chr b) none args (m.takeFrom fuel letters args)
    | some .optional =>
      addOption (chr b) (if letters = [] then none else some letters) args (m.takeFrom fuel [] args)
    | some .required =>
      match letters, args with
      | [], [] => fault [text "option requires an argument -- '", [b], text "'"]
      | [], value :: args => addOption (chr b) (some value) args (m.takeFrom fuel [] args)
      | letters, args => addOption (chr b) (some letters) args (m.takeFrom fuel [] args)
  | _, [], [] => ⟨[], [], none⟩
  | fuel + 1, [], arg :: args =>
    match arg with
    | [45, 45] => ⟨[], args, none⟩
    | 45 :: 45 :: word =>
      let (spelling, value) := word.span (· ≠ 61)
      let value : Option Bytes := match value with
        | _ :: value => some value
        | [] => none
      match m.word? spelling word with
      | .error words => fault words
      | .ok w =>
        let named := text ("'--" ++ w.word ++ "'")
        match w.arity, value, args with
        | .none, some _, _ => fault [text "option ", named, text " doesn't allow an argument"]
        | .required, none, [] => fault [text "option ", named, text " requires an argument"]
        | .required, none, value :: args =>
          addWord w.letter (some value) args (m.takeFrom fuel [] args)
        | _, value, args => addWord w.letter value args (m.takeFrom fuel [] args)
    | 45 :: b :: letters => m.takeFrom fuel (b :: letters) args
    | _ => if m.ordered then ⟨[], arg :: args, none⟩ else addOperand arg (m.takeFrom fuel [] args)

def take (m : Menu) (args : List Bytes) : Taken :=
  m.takeFrom (args.foldl (fun n a => n + a.length + 1) 1) [] args

end Menu

/-- a flag by its word -/
def flag (word : String) (letter : Char) : LongName := ⟨word, .none, letter⟩

/-- an option with a value by its word -/
def valued (word : String) (letter : Char) : LongName := ⟨word, .required, letter⟩

/-- the words that every tool knows -/
def common : List LongName := [flag "help" '?', flag "version" '?']

/-- with the words that every tool knows, unless it has them already -/
def Menu.complete (m : Menu) : Menu :=
  if m.words.any fun w => w.word = "help" then m else { m with words := m.words ++ common }

namespace Work

/-- Take options one after another into a choice, and then the operands. The first thing that is
wrong ends the tool. -/
def options {σ : Type} (m : Menu) (args : List Bytes) (start : σ) (take : σ → Given → Work σ) :
    Work (σ × List Bytes) := do
  let t := m.complete.take args
  let mut choice := start
  for g in t.options do
    if g.letter = '?' then throw 0
    choice ← take choice g
  if let some words := t.fault then
    let d ← get
    say (d.name :: text ": " :: words ++ [[Shell.newline]])
    usage
  return (choice, t.operands)

/-- What one of several words says, which may be cut short as long as it stays clear. Words in a row
that say the same are listed together. -/
def chooseOr {α : Type} [BEq α] (otherwise : Work α) (what : String) (words : List (String × α))
    (value : Bytes) : Work α := do
  if let some (_, x) := words.find? fun w => text w.1 = value then return x
  let found := words.filter fun w => value.isPrefixOf (text w.1)
  match found with
  | (_, x) :: more => if more.all fun w => w.2 == x then return x
  | [] => pure ()
  let kind := if found.isEmpty then "invalid" else "ambiguous"
  complain [text (kind ++ " argument "), Quoting.plain value, text (" for '" ++ what ++ "'")]
  let list := words.zip (none :: words.map (some ·.2))
  say (text "Valid arguments are:" :: (list.map fun ((word, x), last) =>
    text ((if last.any (· == x) then ", '" else "\n  - '") ++ word ++ "'")) ++ [[Shell.newline]])
  otherwise

def choose {α : Type} [BEq α] (what : String) (words : List (String × α)) (value : Bytes) :
    Work α :=
  chooseOr usage what words value

/-- options that are only on or off -/
def flags (m : Menu) (args : List Bytes) : Work (List Char × List Bytes) := do
  options m args [] fun on g => return on ++ [g.letter]

end Work
end JarLauncher.Tool
