import JarLauncher.Shell.Syntax
import JarLauncher.Shell.Char

/-! What a shell reads from, octet by octet. The text of an alias comes before what follows the
alias; while it is read, and until one octet more is, the alias does not stand for anything. -/

namespace JarLauncher.Shell

inductive Keyword where
  | not_ | case_ | do_ | done | elif | else_ | esac | fi | for_ | if_ | in_ | then_ | until_
  | while_ | brace | endBrace
  deriving DecidableEq

namespace Keyword

def spelling : Keyword → String
  | not_ => "!"
  | case_ => "case"
  | do_ => "do"
  | done => "done"
  | elif => "elif"
  | else_ => "else"
  | esac => "esac"
  | fi => "fi"
  | for_ => "for"
  | if_ => "if"
  | in_ => "in"
  | then_ => "then"
  | until_ => "until"
  | while_ => "while"
  | brace => "\x7b"
  | endBrace => "\x7d"

def all : List Keyword :=
  [not_, case_, do_, done, elif, else_, esac, fi, for_, if_, in_, then_, until_, while_, brace,
   endBrace]

/-- all of them by their octets -/
def bySpelling : List (Bytes × Keyword) := all.map fun k => (text k.spelling, k)

def ofText? (bs : Bytes) : Option Keyword := bySpelling.lookup bs

end Keyword

/-- what a redirection sign asks for -/
inductive RedirectKind where
  | open (mode : OpenMode)
  | duplicate
  /-- a document; one that is `indented` loses the tabs at the front of its lines -/
  | document (indented : Bool)
  deriving DecidableEq

inductive Token where
  | endOfText | newline | semicolon | ampersand | and | or | pipe | open | close | endOfCase
  | redirection (fd : Nat) (kind : RedirectKind)
  | word
  | keyword (k : Keyword)
  deriving DecidableEq

namespace Token

/-- the token as complaints name it -/
def name : Token → String
  | endOfText => "end of file"
  | newline => "newline"
  | semicolon => "\";\""
  | ampersand => "\"&\""
  | and => "\"&&\""
  | or => "\"||\""
  | pipe => "\"|\""
  | .open => "\"(\""
  | close => "\")\""
  | endOfCase => "\";;\""
  | redirection .. => "redirection"
  | word => "word"
  | keyword k => "\"" ++ k.spelling ++ "\""

/-- the tokens that end a list of commands -/
def endsList : Token → Bool
  | endOfText | close | endOfCase => true
  | keyword k => [Keyword.do_, .done, .elif, .else_, .esac, .fi, .then_, .endBrace].contains k
  | _ => false

end Token

/-- what the next token may be besides a word or a sign -/
structure Expected where
  /-- newlines before it are passed over -/
  newlines : Bool := false
  keywords : Bool := false
  aliases : Bool := false
  /-- it is the word that ends a document, in which nothing is expanded -/
  endMark : Bool := false

/-- a text that comes before what was to be read next -/
structure Inserted where
  /-- what was to be read next -/
  rest : Bytes
  /-- the alias that it stands for -/
  name : Bytes
  /-- another alias may follow, because the text ends in a blank -/
  endsBlank : Bool

/-- a document that was announced and not yet read -/
structure Announced where
  number : Nat
  endMark : Bytes
  indented : Bool
  plain : Bool

structure Source where
  rest : Bytes
  /-- nothing can follow `rest` -/
  isWhole : Bool
  line : Nat
  inserted : List Inserted
  /-- aliases whose text has just been read -/
  expired : List Bytes
  aliases : List (Bytes × Bytes)
  /-- the line that is given to text which is read a second time -/
  innerLine : Nat
  expected : Expected
  /-- the last token, and whether it comes again -/
  last : Token
  isHeld : Bool
  /-- the last word, and whether some of it was quoted -/
  word : Word
  isQuoted : Bool
  announced : List Announced
  documents : Array Word

/-- a text that is read from its start, in the line `line` -/
def Source.ofText (bs : Bytes) (isWhole : Bool) (line : Nat) : Source where
  rest := bs
  isWhole := isWhole
  line := line
  inserted := []
  expired := []
  aliases := []
  innerLine := line
  expected := {}
  last := .newline
  isHeld := false
  word := []
  isQuoted := false
  announced := []
  documents := #[]

/-- why nothing could be read -/
inductive Fault where
  | mistake (line : Nat) (text : String)
  /-- the text stops where more may come -/
  | unfinished

abbrev Read := EStateM Fault Source

namespace Read

/-- how often a loop may go round -/
def patience : Nat := 1000000000000

/-- how often a loop may go round that takes an octet each time, as long as the text may be -/
def rounds : Read Nat := return patience + (← get).rest.length

def fail {α : Type} (text : String) : Read α := do throw (.mistake (← get).line text)

/-- what is still to be read of an alias is read; the reader goes on behind it -/
def leaveAlias (s : Source) (i : Inserted) (more : List Inserted) : Source :=
  { s with
    rest := i.rest
    inserted := more
    expired := i.name :: s.expired
    expected := if i.endsBlank then { s.expected with aliases := true } else s.expected }

/-- the next octet, none at the end -/
def nextFrom (s : Source) : List Inserted → Bytes → EStateM.Result Fault Source (Option UInt8)
  | inserted, b :: rest => .ok (some b) { s with rest := rest, inserted := inserted }
  | [], [] =>
    if s.isWhole then .ok none { s with rest := [], inserted := [] } else .error .unfinished s
  | i :: more, [] => nextFrom (leaveAlias s i more) more i.rest
termination_by inserted => inserted.length

def next : Read (Option UInt8) := fun s =>
  let s := if s.expired.isEmpty then s else { s with expired := [] }
  nextFrom s s.inserted s.rest

/-- put an octet back -/
def unread (c : Option UInt8) : Read Unit :=
  match c with
  | some b => modify fun s => { s with rest := b :: s.rest }
  | none => return

def countLine : Read Unit := modify fun s => { s with line := s.line + 1 }

/-- the next octet, lines that end in a backslash joined with the next one -/
def nextJoined : Nat → Read (Option UInt8)
  | 0 => return none
  | fuel + 1 => do
    let c ← next
    if c ≠ some 92 then return c
    let d ← next
    if d = some newline then
      countLine
      nextJoined fuel
    else
      unread d
      return c

def joined : Read (Option UInt8) := nextJoined patience

/-- the next octet is taken if it is `b` -/
def accept (b : UInt8) : Read Bool := do
  let c ← joined
  if c = some b then return true
  unread c
  return false

/-- go on with the text of an alias -/
def insertAlias (name body : Bytes) : Read Unit := modify fun s => { s with
  rest := body
  inserted := ⟨s.rest, name, body.getLast?.any isBlank⟩ :: s.inserted
  expired := [] }

/-- what a word stands for, unless its text is just being read -/
def alias? (name : Bytes) : Read (Option Bytes) := do
  let s ← get
  if s.inserted.any (·.name = name) || s.expired.contains name then return none
  return s.aliases.lookup name

/-- read `body` from another text, and go on here afterwards -/
def within {α : Type} (text : Bytes) (body : Read α) : Read α := do
  let s ← get
  set { s with rest := text, isWhole := true, line := s.innerLine, inserted := [], expired := [] }
  let a ← body
  modify fun t => { t with
    rest := s.rest
    isWhole := s.isWhole
    line := s.line
    inserted := s.inserted
    expired := s.expired }
  return a

def expect (e : Expected) : Read Unit := modify fun s => { s with expected := e }

/-- let the last token come again -/
def hold : Read Unit := modify fun s => { s with isHeld := true }

/-- a token that cannot stand here, and what could -/
def unexpected {α : Type} (wanted : Option Token) : Read α := do
  let found := (← get).last.name ++ " unexpected"
  match wanted with
  | some t => fail ("Syntax error: " ++ found ++ " (expecting " ++ t.name ++ ")")
  | none => fail ("Syntax error: " ++ found)

end Read
end JarLauncher.Shell
