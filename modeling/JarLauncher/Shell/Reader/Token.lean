import JarLauncher.Shell.Reader.Word

/-! Tokens. What the next one may be is said before it is read; an alias is read as the text that it
stands for. -/

namespace JarLauncher.Shell.Read

/-- a comment up to the end of its line -/
def comment : Nat → Read Unit
  | 0 => return
  | fuel + 1 => do
    let c ← next
    if c = none ∨ c = some newline then unread c else comment fuel

/-- the first octet of a token, blanks and comments passed over -/
def tokenStart : Nat → Read (Option UInt8)
  | 0 => return none
  | fuel + 1 => do
    let c ← joined
    if c.any isBlank then tokenStart fuel
    else if c = some 35 then
      comment patience
      tokenStart fuel
    else return c

/-- the kind of a redirection, after its `<` or `>` -/
def redirectKind (b : UInt8) : Read RedirectKind := do
  if b = 62 then
    if ← accept 62 then return .open .append
    if ← accept 124 then return .open .force
    if ← accept 38 then return .duplicate
    return .open .write
  if ← accept 60 then return .document (← accept 45)
  if ← accept 38 then return .duplicate
  if ← accept 62 then return .open .readWrite
  return .open .read

/-- the number in front of a redirection: one digit, or none -/
def redirectNumber? (d : Draft) : Option (Option Nat) :=
  if d.isQuoted then none
  else match d.parts with
    | [] => some none
    | [.octet b] => if isDigit b then some (some (b.toNat - 48)) else none
    | _ => none

variable (commands : Read (Option Command))

/-- a word, or a redirection if what was read is its number -/
def wordFrom (token : Read Token) (c : Option UInt8) : Read Token := do
  let (d, c) ← partsFrom commands token none (← rounds) (Draft.start (Level.start .plain)) c
  let w ← finished d false
  match c with
  | some b =>
    if b = 60 ∨ b = 62 then
      if let some number := redirectNumber? d then
        let kind ← redirectKind b
        return .redirection (number.getD (if b = 62 then 1 else 0)) kind
  | none => pure ()
  unread c
  modify fun s => { s with word := w, isQuoted := d.isQuoted }
  return .word

/-- the next token, keywords and aliases apart -/
def sign (token : Read Token) : Read Token := do
  let s ← get
  if s.isHeld then
    set { s with isHeld := false }
    return s.last
  let c ← tokenStart patience
  let t ← match c.map chr with
    | none => pure Token.endOfText
    | some '\n' =>
      countLine
      pure .newline
    | some '&' => pure (if ← accept 38 then .and else .ampersand)
    | some '|' => pure (if ← accept 124 then .or else .pipe)
    | some ';' => pure (if ← accept 59 then .endOfCase else .semicolon)
    | some '(' => pure .open
    | some ')' => pure .close
    | _ => wordFrom commands token c
  modify fun s => { s with last := t }
  return t

/-- newlines are passed over, and the documents after them read -/
def passNewlines (token : Read Token) : Nat → Token → Read Token
  | 0, t => return t
  | fuel + 1, t => do
    if t ≠ .newline then return t
    documents commands token
    passNewlines token fuel (← sign commands token)

/-- the next token, as `e` allows and as an alias before it may add -/
def tokenFrom : Nat → Expected → Read Token
  | 0, _ => return .endOfText
  | fuel + 1, e => do
    let again := tokenFrom fuel {}
    let t ← sign commands again
    let t ← if e.newlines then passNewlines commands again patience t else pure t
    let more := (← get).expected
    let e : Expected := ⟨e.newlines || more.newlines, e.keywords || more.keywords,
      e.aliases || more.aliases, e.endMark || more.endMark⟩
    expect {}
    let s ← get
    if t ≠ .word || s.isQuoted then return t
    match s.word.plain? with
    | none => return t
    | some name =>
      if e.keywords then
        if let some k := Keyword.ofText? name then
          modify fun s => { s with last := .keyword k }
          return .keyword k
      if e.aliases then
        if let some body ← alias? name then
          if body ≠ [] then insertAlias name body
          return ← tokenFrom fuel e
      return t

def token : Read Token := do tokenFrom commands patience (← get).expected

end JarLauncher.Shell.Read
