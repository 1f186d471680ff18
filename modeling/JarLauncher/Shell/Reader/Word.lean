import JarLauncher.Shell.Reader.Source

/-! Reading words and documents. Quotes and expansions may stand in each other; each of them that
has rules of its own for what it holds opens a level. -/

namespace JarLauncher.Shell

/-- which octets have a meaning -/
inductive Mode where
  | plain | double | single | arithmetic
  deriving DecidableEq

/-- what an octet is to the reader -/
inductive Role where
  | literal
  /-- literal, but with a meaning elsewhere -/
  | guarded
  | newline | backslash | singleQuote | doubleQuote | endOfQuote | dollar | endOfParam | backquote
  | open | close
  /-- it ends a word -/
  | ending
  | endOfText
  deriving DecidableEq

namespace Mode

/-- octets that the shell marks its own text with -/
def isMark (b : UInt8) : Bool := 0x81 ≤ b && b ≤ 0x88

/-- octets that have a meaning in patterns or in front of users' names -/
def isPatternSign (b : UInt8) : Bool := "!*?[=~:/-]".toList.contains (chr b)

def role (m : Mode) (c : Option UInt8) : Role :=
  match c with
  | none => .endOfText
  | some b =>
    if isMark b then .guarded
    else match m, chr b with
      | _, '\n' => .newline
      | .single, '\'' => .endOfQuote
      | .single, '\\' => .guarded
      | .single, _ => if isPatternSign b then .guarded else .literal
      | _, '\\' => .backslash
      | _, '`' => .backquote
      | _, '$' => .dollar
      | _, '\x7d' => .endOfParam
      | .plain, '\'' => .singleQuote
      | .plain, '"' => .doubleQuote
      | .plain, _ => if endsWord b then .ending else .literal
      | .double, '"' => .endOfQuote
      | .double, _ => if isPatternSign b then .guarded else .literal
      | .arithmetic, '(' => .open
      | .arithmetic, ')' => .close
      | .arithmetic, _ => .literal

end Mode

structure Level where
  mode : Mode
  /-- in double quotes, or in something that is read like them -/
  isDoubled : Bool
  /-- in double quotes inside of a parameter that stands in double quotes -/
  isRequoted : Bool
  /-- it was opened by a parameter, with which it ends -/
  ofParam : Bool
  /-- how many parameters are open, and how many of them in double quotes -/
  params : Nat
  doubledParams : Nat
  /-- how many parentheses are open -/
  parens : Nat

def Level.start (m : Mode) : Level := ⟨m, false, false, false, 0, 0, 0⟩

/-- an expansion that is open -/
inductive Frame where
  | param (name : Bytes) (op : ParamOp) (orEmpty : Bool)
  | arithmetic

/-- a word while it is read -/
structure Draft where
  /-- the parts of what is open, the last one first -/
  parts : List Part
  /-- the expansions that are open, each with the parts before it -/
  frames : List (Frame × List Part)
  level : Level
  outer : List Level
  isQuoted : Bool

namespace Draft

def start (l : Level) : Draft := ⟨[], [], l, [], false⟩

def push (d : Draft) (p : Part) : Draft := { d with parts := p :: d.parts }

/-- a mark where quotes begin or end; documents have none -/
def mark (d : Draft) (inDocument : Bool) : Draft := if inDocument then d else d.push .quote

def openLevel (d : Draft) (l : Level) : Draft := { d with level := l, outer := d.level :: d.outer }

def closeLevel (d : Draft) : Draft :=
  match d.outer with
  | l :: outer => { d with level := l, outer := outer }
  | [] => d

def openFrame (d : Draft) (f : Frame) : Draft :=
  { d with parts := [], frames := (f, d.parts) :: d.frames }

/-- what is open becomes a part of what is around it -/
def closeFrame (d : Draft) : Draft :=
  match d.frames with
  | (.param name op orEmpty, before) :: frames =>
    { d with parts := .param name op orEmpty d.parts.reverse :: before, frames := frames }
  | (.arithmetic, before) :: frames =>
    { d with parts := .arithmetic d.parts.reverse :: before, frames := frames }
  | [] => d

/-- a backslash and the octet after it: in double quotes it goes with few octets only -/
def backslashed (d : Draft) (inDocument : Bool) (b : UInt8) : Draft :=
  let l := d.level
  let stays : Bool := l.isDoubled &&
    match chr b with
    | '\\' | '`' | '$' => false
    | '"' => inDocument && l.params = 0
    | '\x7d' => l.params = 0
    | _ => true
  let d := if stays then d.push (.escaped 92) else d
  { d.push (.escaped b) with isQuoted := true }

def singleQuote (d : Draft) (inDocument : Bool) : Draft :=
  { d with level := { d.level with mode := .single } }.mark inDocument

def doubleQuote (d : Draft) (inDocument : Bool) : Draft :=
  let l := d.level
  { d with level := { l with
      mode := .double
      isDoubled := true
      isRequoted := if l.params = 0 then l.isRequoted else !l.isRequoted } }.mark inDocument

def endOfQuote (d : Draft) (inDocument : Bool) (b : UInt8) : Draft :=
  let l := d.level
  if inDocument && l.params = 0 then d.push (.octet b)
  else
    let l := if l.doubledParams = 0 then { l with mode := .plain, isDoubled := false } else l
    let l := if b = 34 ∧ l.params ≠ 0 then { l with isRequoted := !l.isRequoted } else l
    { d with level := l, isQuoted := true }.mark inDocument

def endOfParam (d : Draft) (b : UInt8) : Draft :=
  let l := d.level
  if l.isRequoted || l.params = 0 then d.push (.octet b)
  else
    let l := { l with params := l.params - 1 }
    let d := { d with level := l }
    let d := if l.params = 0 ∧ l.ofParam then d.closeLevel
      else { d with level := { l with doubledParams := l.doubledParams - 1 } }
    d.closeFrame

/-- open a parameter with an argument -/
def openParam (d : Draft) (name : Bytes) (op : ParamOp) (orEmpty : Bool) : Draft :=
  let cuts := match op with
    | .cutSuffix _ | .cutPrefix _ => true
    | _ => false
  let mode := if cuts then Mode.plain
    else if d.level.mode = .arithmetic then .double else d.level.mode
  let d := if mode ≠ d.level.mode ∨ d.level.isRequoted then
      d.openLevel { Level.start mode with isDoubled := mode ≠ .plain, ofParam := true }
    else d
  let l := d.level
  { d with level := { l with
      params := l.params + 1
      doubledParams := if l.isDoubled then l.doubledParams + 1 else l.doubledParams } }.openFrame
    (.param name op orEmpty)

end Draft

namespace Read

/-- the next octet of a text in some mode -/
def nextIn (m : Mode) : Read (Option UInt8) := if m = .single then next else joined

/-- octets while `p` holds of them, from `c` on, and the octet after them -/
def spanFrom (p : UInt8 → Bool) : Nat → List UInt8 → Option UInt8 → Read (Bytes × Option UInt8)
  | 0, taken, c => return (taken.reverse, c)
  | fuel + 1, taken, c =>
    match c with
    | some b => if p b then do spanFrom p fuel (b :: taken) (← joined)
      else return (taken.reverse, c)
    | none => return (taken.reverse, c)

def span (p : UInt8 → Bool) (c : Option UInt8) : Read (Bytes × Option UInt8) :=
  spanFrom p patience [] c

/-- the heading of a parameter in braces: its name, and what is done with its value -/
structure Heading where
  name : Bytes
  op : ParamOp
  orEmpty : Bool

/-- what follows the name of a parameter in braces; `c` comes first -/
def operation (name : Bytes) (c : Option UInt8) : Read Heading := do
  let (orEmpty, c) ← if c = some 58 then pure (true, ← joined) else pure (false, c)
  match c.map chr with
  | some '\x7d' => return ⟨name, .value, orEmpty⟩
  | some '-' => return ⟨name, .orElse, orEmpty⟩
  | some '+' => return ⟨name, .andThen, orEmpty⟩
  | some '?' => return ⟨name, .orFail, orEmpty⟩
  | some '=' => return ⟨name, .assign, orEmpty⟩
  | some '%' =>
    if orEmpty then return ⟨name, .none, true⟩
    return ⟨name, .cutSuffix (← accept 37), false⟩
  | some '#' =>
    if orEmpty then return ⟨name, .none, true⟩
    return ⟨name, .cutPrefix (← accept 35), false⟩
  | _ => return ⟨name, .none, orEmpty⟩

/-- the heading of the length of a parameter; the brace after it is not taken -/
def lengthOf (c : Option UInt8) : Read Heading := do
  let (name, c) ← span (if c.any isNameStart then isNameChar else isDigit) c
  unread c
  return ⟨name, if c = some 125 then .length else .none, false⟩

def special (b : UInt8) : Bool := isSpecialParam b || isDigit b

/-- the heading of a parameter, after its opening brace -/
def heading : Read Heading := do
  let c ← joined
  if c.any isNameStart then
    let (name, c) ← span isNameChar c
    return ← operation name c
  if c.any isDigit then
    let (name, c) ← span isDigit c
    return ← operation name c
  let bad : Heading := ⟨[], .none, false⟩
  match c with
  | none | some 125 =>
    if c = none then
      unread (← joined)
    else unread c
    return bad
  | some sign =>
    let c ← joined
    if sign ≠ 35 then
      if special sign then return ← operation [sign] c
      unread c
      return bad
    if c.any isNameChar then return ← lengthOf c
    let d ← joined
    if c = some 125 ∨ d ≠ some 125 then
      unread d
      operation [35] c
    else
      unread d
      match c with
      | some b => return if special b then ⟨[b], .length, false⟩ else bad
      | none => return bad

/-- the text between backquotes, one level of backslashes removed -/
def backquotedFrom (isDoubled : Bool) : Nat → List UInt8 → Read Bytes
  | 0, taken => return taken.reverse
  | fuel + 1, taken => do
    match ← joined with
    | none => fail "Syntax error: EOF in backquote substitution"
    | some 96 => return taken.reverse
    | some 92 =>
      match ← next with
      | none => backquotedFrom isDoubled fuel (92 :: taken)
      | some b =>
        let goes : Bool := match chr b with
          | '\\' | '`' | '$' => true
          | '"' => isDoubled
          | _ => false
        backquotedFrom isDoubled fuel (if goes then b :: taken else b :: 92 :: taken)
    | some b =>
      if b = newline then countLine
      backquotedFrom isDoubled fuel (b :: taken)

/-- the line that ends a document -/
structure EndMark where
  mark : Bytes
  indented : Bool

/-- octets as long as they are those of the mark; then those that were read, the last one first,
and what is left of the mark -/
def alongMark : Bytes → List UInt8 → Option UInt8 → Read (List UInt8 × Option UInt8 × Bytes)
  | [], taken, c => return (taken, c, [])
  | m :: mark, taken, c => do
    if c = some m then alongMark mark (m :: taken) (← next)
    else return (taken, c, m :: mark)

def skipTabs : Nat → Option UInt8 → Read (Option UInt8)
  | 0, c => return c
  | fuel + 1, c => do
    if c = some 9 then skipTabs fuel (← next) else return c

/-- The first octet of a line of a document, none if the line ends it. Of a line that only opens
like the mark, an octet above 127 that sets it apart from the mark is lost. -/
def lineStart (m : EndMark) (c : Option UInt8) : Read (Option UInt8) := do
  let c ← if m.indented then skipTabs patience c else pure c
  let (taken, c, left) ← alongMark m.mark [] c
  if left = [] ∧ (c = none ∨ c = some newline) then
    countLine
    return none
  match taken.reverse with
  | [] => return c
  | first :: others =>
    let kept := match c with
      | some b => if b < 128 then others ++ [b] else others
      | none => others
    modify fun s => { s with rest := kept ++ s.rest }
    return some first

/-- where a newline was read in a document, or in a word that it does not end -/
def afterNewline (m : Mode) (ending : Option EndMark) : Read (Option UInt8) := do
  countLine
  let c ← nextIn m
  match ending with
  | some e => lineStart e c
  | none => return c

variable (commands : Read (Option Command))

/-- The commands of a substitution up to its closing parenthesis. Documents that they announce and
that do not stand before it are empty. -/
def substitution (token : Read Token) : Read Part := do
  let announced := (← get).announced
  modify fun s => { s with announced := [] }
  let body ← commands
  if (← token) ≠ .close then unexpected (some .close)
  modify fun s => { s with announced := announced }
  return .output body

/-- the commands between backquotes -/
def oldSubstitution (isDoubled : Bool) : Read Part := do
  let inner ← backquotedFrom isDoubled patience []
  let announced := (← get).announced
  modify fun s => { s with announced := [] }
  let body ← within inner commands
  modify fun s => { s with announced := announced, isHeld := false }
  return .output body

/-- what stands after a dollar sign -/
def afterDollar (token : Read Token) (d : Draft) : Read Draft := do
  let c ← joined
  match c with
  | none => return d.push (.octet 36)
  | some b =>
    if (← get).expected.endMark || !(b = 40 || b = 123 || isNameStart b || special b) then
      unread c
      return d.push (.octet 36)
    if b = 40 then
      if ← accept 40 then
        let l := { Level.start .arithmetic with isDoubled := true }
        return (d.openLevel l).openFrame .arithmetic
      return d.push (← substitution commands token)
    if b = 123 then
      let h ← heading
      if h.op = .value ∧ !h.orEmpty then return d.push (.param h.name .value false [])
      return d.openParam h.name h.op h.orEmpty
    if isNameStart b then
      let (name, c) ← span isNameChar c
      unread c
      return d.push (.param name .value false [])
    return d.push (.param [b] .value false [])

/-- A closing parenthesis in an arithmetic expression; a second one after it ends the expression,
unless another one is open. -/
def closing (d : Draft) : Read Draft := do
  let l := d.level
  if l.parens ≠ 0 then
    return { d with level := { l with parens := l.parens - 1 } }.push (.octet 41)
  if ← accept 41 then return d.closeLevel.closeFrame
  return d.push (.octet 41)

/-- the parts of a word or a document, from `c` on, and the octet after it -/
def partsFrom (token : Read Token) (ending : Option EndMark) :
    Nat → Draft → Option UInt8 → Read (Draft × Option UInt8)
  | 0, d, c => return (d, c)
  | fuel + 1, d, c => do
    let inDocument := ending.isSome
    let b := c.getD 0
    let goOn (d : Draft) : Read (Draft × Option UInt8) := do
      partsFrom token ending fuel d (← nextIn d.level.mode)
    match d.level.mode.role c with
    | .endOfText => return (d, c)
    | .newline =>
      if d.level.mode = .plain ∧ d.level.params = 0 then return (d, c)
      partsFrom token ending fuel (d.push (.octet b)) (← afterNewline d.level.mode ending)
    | .literal => goOn (d.push (.octet b))
    | .guarded =>
      goOn (d.push (if !inDocument || d.level.isDoubled then .escaped b else .octet b))
    | .backslash =>
      match ← next with
      | none => goOn (d.push (.escaped b))
      | some e => goOn (d.backslashed inDocument e)
    | .singleQuote => goOn (d.singleQuote inDocument)
    | .doubleQuote => goOn (d.doubleQuote inDocument)
    | .endOfQuote => goOn (d.endOfQuote inDocument b)
    | .dollar => goOn (← afterDollar commands token d)
    | .endOfParam => goOn (d.endOfParam b)
    | .open =>
      goOn ({ d with level := { d.level with parens := d.level.parens + 1 } }.push (.octet b))
    | .close => goOn (← closing d)
    | .backquote =>
      if (← get).expected.endMark then goOn { d.push (.octet b) with isQuoted := true }
      else goOn (d.push (← oldSubstitution commands d.level.isDoubled))
    | .ending =>
      if d.level.params = 0 then return (d, c)
      goOn (d.push (.octet b))

/-- a draft that is over must have nothing open -/
def finished (d : Draft) (inDocument : Bool) : Read Word := do
  if d.level.mode = .arithmetic then fail "Syntax error: Missing '))'"
  if d.level.mode ≠ .plain && !inDocument then fail "Syntax error: Unterminated quoted string"
  if d.level.params ≠ 0 then fail "Syntax error: Missing '\x7d'"
  return d.parts.reverse

/-- the document that ends with `m` -/
def document (token : Read Token) (m : EndMark) (plain : Bool) : Read Word := do
  let l : Level := if plain then Level.start .single
    else { Level.start .double with isDoubled := true }
  let c ← nextIn l.mode
  let (d, _) ← partsFrom commands token (some m) (← rounds) (Draft.start l) (← lineStart m c)
  finished d true

/-- the documents that were announced, one after another -/
def documents (token : Read Token) : Read Unit := do
  let announced := (← get).announced
  modify fun s => { s with announced := [] }
  announced.forM fun a => do
    let w ← document commands token ⟨a.endMark, a.indented⟩ a.plain
    modify fun s => { s with documents := s.documents.setIfInBounds a.number w }

end Read
end JarLauncher.Shell
