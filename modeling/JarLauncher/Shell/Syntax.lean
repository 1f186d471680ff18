import JarLauncher.Utf8

/-! The syntax of shell text: words made of parts, redirections, and commands. Documents that stand
in the lines after a command are known to it by number. -/

namespace JarLauncher.Shell

/-- what `${name…}` does with the value of a parameter -/
inductive ParamOp where
  | value
  | length
  /-- the argument if there is no value -/
  | orElse
  /-- the argument unless there is no value -/
  | andThen
  | orFail
  | assign
  | cutSuffix (longest : Bool)
  | cutPrefix (longest : Bool)
  /-- no operation there is; it fails when it is reached -/
  | none
  deriving DecidableEq, Repr

/-- how a redirection opens its file -/
inductive OpenMode where
  | read | write | append | readWrite
  /-- like `write`, also where files may not be overwritten -/
  | force
  deriving DecidableEq, Repr

mutual

inductive Part where
  | octet (b : UInt8)
  /-- an octet that stands for itself -/
  | escaped (b : UInt8)
  /-- where quotes begin or end -/
  | quote
  /-- `orEmpty` if an empty value counts as none -/
  | param (name : Bytes) (op : ParamOp) (orEmpty : Bool) (arg : List Part)
  /-- the output of a command -/
  | output (body : Option Command)
  | arithmetic (body : List Part)

inductive Redirect where
  | open (fd : Nat) (mode : OpenMode) (target : List Part)
  | duplicate (fd : Nat) (source : List Part)
  /-- a document, by number; in one that is not `plain` there are expansions -/
  | document (fd : Nat) (number : Nat) (plain : Bool)

inductive Command where
  | simple (line : Nat) (assigns : List (Bytes × List Part)) (words : List (List Part))
      (redirects : List Redirect)
  | pipeline (stages : List Command) (inBackground : Bool)
  | negation (c : Command)
  | both (a b : Command)
  | either (a b : Command)
  | sequence (a b : Command)
  | background (line : Nat) (c : Command) (redirects : List Redirect)
  | subshell (line : Nat) (c : Command) (redirects : List Redirect)
  | redirected (line : Nat) (c : Command) (redirects : List Redirect)
  | conditional (cond yes : Command) (no : Option Command)
  /-- a loop that runs while its condition succeeds, or until it does -/
  | loop (until_ : Bool) (cond body : Command)
  | forEach (line : Nat) (name : Bytes) (words : List (List Part)) (body : Command)
  | select (line : Nat) (word : List Part) (clauses : List (List (List Part) × Option Command))
  | define (line : Nat) (name : Bytes) (body : Command)

end

abbrev Word := List Part

instance : Inhabited Command := ⟨.simple 0 [] [] []⟩

namespace Part

/-- the octet of a part that is one as it stands -/
def octet? : Part → Option UInt8
  | octet b => some b
  | _ => Option.none

/-- an octet, quoted or not -/
def character? : Part → Option UInt8
  | octet b | escaped b => some b
  | _ => Option.none

end Part

namespace Word

/-- the octets of a word without quotes and expansions -/
def plain? (w : Word) : Option Bytes := w.mapM Part.octet?

/-- the octets of a word, its quotes removed and its expansions left out -/
def characters (w : Word) : Bytes := w.filterMap Part.character?

end Word
end JarLauncher.Shell
