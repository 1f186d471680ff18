import JarLauncher.Shell.Reader.Token

/-! The grammar of commands. A line of commands is read as a whole, with the documents in the lines
after it. -/

namespace JarLauncher.Shell.Read

/-- the commands that mean something of their own to the grammar: a name for one of them cannot be
given to a function -/
def reserved : List String :=
  [".", ":", "break", "continue", "eval", "exec", "exit", "export", "local", "readonly", "return",
   "set", "shift", "times", "trap", "unset"]

/-- what a list of commands may be -/
inductive ListKind where
  /-- the commands of one line -/
  | line
  /-- at least one command -/
  | some
  | any
  deriving DecidableEq

def atCommand : Expected := { newlines := true, keywords := true, aliases := true }

/-- a word that sets a variable, as the name and the value -/
def assignment? (w : Word) : Option (Bytes × Word) :=
  let name := (w.map Part.octet?).takeWhile (fun b => b.any isNameChar) |>.filterMap id
  match w.drop name.length with
  | .octet 61 :: value => if isName name then Option.some (name, value) else none
  | _ => none

/-- the word of a redirection -/
def redirectFrom (token : Read Token) (fd : Nat) (kind : RedirectKind) : Read Redirect := do
  match kind with
  | .document indented =>
    expect { endMark := true }
    if (← token) ≠ .word then unexpected none
    let s ← get
    let number := s.documents.size
    let announced : Announced := ⟨number, s.word.characters, indented, s.isQuoted⟩
    set { s with documents := s.documents.push [], announced := s.announced ++ [announced] }
    return .document fd number s.isQuoted
  | .duplicate =>
    if (← token) ≠ .word then unexpected none
    return .duplicate fd (← get).word
  | .open mode =>
    if (← token) ≠ .word then unexpected none
    return .open fd mode (← get).word

def redirectsFrom (token : Read Token) : Nat → List Redirect → Read (List Redirect)
  | 0, done => return done.reverse
  | fuel + 1, done => do
    match ← token with
    | .redirection fd kind => redirectsFrom token fuel ((← redirectFrom token fd kind) :: done)
    | _ =>
      hold
      return done.reverse

/-- a simple command while it is read -/
structure Simple where
  assigns : List (Bytes × Word)
  words : List Word
  redirects : List Redirect

/-- every parameter from 1 on, each as one field -/
def allArguments : Word := [.quote, .param [64] .value false [], .quote]

def wordsFrom (token : Read Token) : Nat → List Word → Read (List Word)
  | 0, done => return done.reverse
  | fuel + 1, done => do
    if (← token) = .word then wordsFrom token fuel ((← get).word :: done) else return done.reverse

def need (token : Read Token) (t : Token) : Read Unit := do
  if (← token) ≠ t then unexpected t

/-- the patterns of a clause, of which the first token was read, up to the closing parenthesis -/
def patternsFrom (token : Read Token) : Nat → List Word → Read (List Word)
  | 0, done => return done.reverse
  | fuel + 1, done => do
    let done := (← get).word :: done
    match ← token with
    | .pipe =>
      let _ ← token
      patternsFrom token fuel done
    | .close => return done.reverse
    | _ => unexpected (Option.some Token.close)

/-- a command that runs beside those after it -/
def inBackground (c : Command) : Command :=
  match c with
  | .pipeline stages _ => .pipeline stages true
  | .redirected line c rs => .background line c rs
  | c => .background 0 c []

mutual

def list (fuel : Nat) (kind : ListKind) (before : Option Command) : Read (Option Command) :=
  match fuel with
  | 0 => return before
  | fuel + 1 => do
    let token := token (list fuel .any none)
    expect { newlines := kind ≠ .line, keywords := true, aliases := true }
    let t ← token
    match t with
    | .newline =>
      documents (list fuel .any none) token
      return before
    | .endOfText =>
      documents (list fuel .any none) token
      modify fun s => { s with isHeld := true, last := .endOfText }
      return before
    | _ =>
      hold
      if t.endsList ∧ (kind = .any ∨ (kind = .some ∧ before.isSome)) then return before
      let c ← andOr fuel
      let t ← token
      let c := if t = .ampersand then inBackground c else c
      let all := match before with
        | Option.some b => Command.sequence b c
        | none => c
      match t with
      | .newline | .endOfText =>
        hold
        list fuel kind all
      | .ampersand | .semicolon => list fuel kind all
      | _ =>
        if kind = .line then unexpected none
        hold
        return all

def andOr (fuel : Nat) : Read Command :=
  match fuel with
  | 0 => return default
  | fuel + 1 => do
    andOrFrom fuel (← pipeline fuel)

def andOrFrom (fuel : Nat) (c : Command) : Read Command :=
  match fuel with
  | 0 => return c
  | fuel + 1 => do
    match ← token (list fuel .any none) with
    | .and =>
      expect atCommand
      andOrFrom fuel (.both c (← pipeline fuel))
    | .or =>
      expect atCommand
      andOrFrom fuel (.either c (← pipeline fuel))
    | _ =>
      hold
      return c

def pipeline (fuel : Nat) : Read Command :=
  match fuel with
  | 0 => return default
  | fuel + 1 => do
    let negated := (← token (list fuel .any none)) = .keyword .not_
    if negated then expect { keywords := true, aliases := true } else hold
    let first ← command fuel
    let stages ← stagesFrom fuel [first]
    let c := match stages with
      | [c] => c
      | _ => .pipeline stages false
    return if negated then .negation c else c

def stagesFrom (fuel : Nat) (done : List Command) : Read (List Command) :=
  match fuel with
  | 0 => return done.reverse
  | fuel + 1 => do
    if (← token (list fuel .any none)) = .pipe then
      expect atCommand
      stagesFrom fuel ((← command fuel) :: done)
    else
      hold
      return done.reverse

def command (fuel : Nat) : Read Command :=
  match fuel with
  | 0 => return default
  | fuel + 1 => do
    let token := token (list fuel .any none)
    let line := (← get).line
    let c ← match ← token with
      | .keyword .if_ =>
        let c ← conditional fuel
        pure c
      | .keyword .while_ => loop fuel false
      | .keyword .until_ => loop fuel true
      | .keyword .for_ => forEach fuel line
      | .keyword .case_ => do
        need token .word
        let subject := (← get).word
        expect atCommand
        need token (.keyword .in_)
        pure (.select line subject (← clausesFrom fuel []))
      | .open => do
        let c ← body fuel
        need token .close
        pure (.subshell line c [])
      | .keyword .brace => do
        let c ← body fuel
        need token (.keyword .endBrace)
        pure c
      | .word =>
        hold
        return ← simple fuel line { keywords := false, aliases := true } ⟨[], [], []⟩
      | .redirection _ _ =>
        hold
        return ← simple fuel line { keywords := false, aliases := true } ⟨[], [], []⟩
      | _ => unexpected none
    expect { keywords := true, aliases := true }
    match ← redirectsFrom token patience [] with
    | [] => return c
    | rs =>
      match c with
      | .subshell line c _ => return .subshell line c rs
      | c => return .redirected line c rs

/-- the commands inside of another one -/
def body (fuel : Nat) : Read Command :=
  match fuel with
  | 0 => return default
  | fuel + 1 => do
    return (← list fuel .some none).getD default

def conditional (fuel : Nat) : Read Command :=
  match fuel with
  | 0 => return default
  | fuel + 1 => do
    let token := token (list fuel .any none)
    let cond ← body fuel
    need token (.keyword .then_)
    let yes ← body fuel
    match ← token with
    | .keyword .elif => return .conditional cond yes (← conditional fuel)
    | .keyword .else_ =>
      let no ← body fuel
      need token (.keyword .fi)
      return .conditional cond yes no
    | .keyword .fi => return .conditional cond yes none
    | _ => unexpected (Option.some (.keyword .fi))

def loop (fuel : Nat) (until_ : Bool) : Read Command :=
  match fuel with
  | 0 => return default
  | fuel + 1 => do
    let token := token (list fuel .any none)
    let cond ← body fuel
    need token (.keyword .do_)
    let c ← body fuel
    need token (.keyword .done)
    return .loop until_ cond c

def forEach (fuel : Nat) (line : Nat) : Read Command :=
  match fuel with
  | 0 => return default
  | fuel + 1 => do
    let token := token (list fuel .any none)
    let t ← token
    let s ← get
    let name ← match s.word.plain? with
      | Option.some name =>
        if t = .word ∧ !s.isQuoted ∧ isName name then pure name
        else fail "Syntax error: Bad for loop variable"
      | none => fail "Syntax error: Bad for loop variable"
    expect atCommand
    let words ← if (← token) = .keyword .in_ then do
        let words ← wordsFrom token patience []
        let t := (← get).last
        if t ≠ .newline ∧ t ≠ .semicolon then unexpected none
        pure words
      else do
        if (← get).last ≠ .semicolon then hold
        pure [allArguments]
    expect atCommand
    need token (.keyword .do_)
    let c ← body fuel
    need token (.keyword .done)
    return .forEach line name words c

def clausesFrom (fuel : Nat) (done : List (List Word × Option Command)) :
    Read (List (List Word × Option Command)) :=
  match fuel with
  | 0 => return done.reverse
  | fuel + 1 => do
    let token := token (list fuel .any none)
    expect { newlines := true, keywords := true }
    let t ← token
    if t = .keyword .esac then return done.reverse
    if t = .open then
      let _ ← token
    let patterns ← patternsFrom token patience []
    let c ← list fuel .any none
    let done := (patterns, c) :: done
    expect { newlines := true, keywords := true }
    match ← token with
    | .keyword .esac => return done.reverse
    | .endOfCase => clausesFrom fuel done
    | _ => unexpected (Option.some .endOfCase)

/-- a command of words, or a function if parentheses follow its first word -/
def simple (fuel : Nat) (line : Nat) (e : Expected) (c : Simple) : Read Command :=
  match fuel with
  | 0 => return default
  | fuel + 1 => do
    let token := token (list fuel .any none)
    expect e
    match ← token with
    | .word =>
      let w := (← get).word
      match if e.aliases then assignment? w else none with
      | Option.some a => simple fuel line e { c with assigns := c.assigns ++ [a] }
      | none => simple fuel line {} { c with words := c.words ++ [w] }
    | .redirection fd kind =>
      let r ← redirectFrom token fd kind
      simple fuel line e { c with redirects := c.redirects ++ [r] }
    | .open =>
      match c with
      | ⟨[], [w], []⟩ =>
        need token .close
        let name ← match w.plain? with
          | Option.some name =>
            if isName name ∧ reserved.all (text · ≠ name) then pure name
            else fail "Syntax error: Bad function name"
          | none => fail "Syntax error: Bad function name"
        expect atCommand
        let line := (← get).line
        return .define line name (← command fuel)
      | _ =>
        hold
        return .simple line c.assigns c.words c.redirects
    | _ =>
      hold
      return .simple line c.assigns c.words c.redirects

end

/-- The commands of the next line, none for an empty one; or nothing at the end of the text. -/
def line : Read (Option (Option Command)) := do
  modify fun s => { s with isHeld := false, expected := {}, announced := [] }
  let c ← list patience .line none
  if c.isNone ∧ (← get).isHeld then return none
  return Option.some c

/-- the whole of a text as a document -/
def whole : Read Word := do
  let commands := list patience .any none
  let c ← joined
  let start := Draft.start { Level.start .double with isDoubled := true }
  let (d, _) ← partsFrom commands (token commands) (Option.some ⟨[0], false⟩) (← rounds)
    start c
  finished d true

end JarLauncher.Shell.Read
