import JarLauncher.Tool.Regex

/-! Regular expressions in a third notation: with conditions on what stands around, signs that
repeat as seldom as they can, and groups with names. Of the ways to match at a place the preferred
one counts, not the longest. -/

namespace JarLauncher.Tool.Regex.Lookaround

open Shell (text chr)

/-- what may be turned on and off within an expression -/
structure Flags where
  folds : Bool := false
  /-- every line has a start and an end -/
  lines : Bool := false
  /-- a dot stands for the end of a line too -/
  all : Bool := false
  /-- blanks and comments stand for nothing -/
  spaced : Bool := false

structure Reading where
  rest : Bytes
  flags : Flags := {}
  groups : Nat := 0
  names : List (Bytes × Nat) := []
  /-- the greatest group that was referred to -/
  referred : Nat := 0
  depth : Nat := 0

abbrev Read := StateT Reading (Except String)

def setRest (rest : Bytes) : Read Unit := modify fun s => { s with rest := rest }

def dialect (f : Flags) : Dialect := { extended := true, folds := f.folds }

def isSpace (b : UInt8) : Bool := b == 32 || (9 ≤ b && b ≤ 13)

def isHorizontal (b : UInt8) : Bool := b == 32 || b == 9 || b == 160

def isVertical (b : UInt8) : Bool := (10 ≤ b && b ≤ 13) || b == 133

/-- the octets that a letter behind a backslash stands for -/
def class? (c : Char) : Option (UInt8 → Bool) :=
  match c with
  | 'd' => some Shell.isDigit
  | 'D' => some fun b => !Shell.isDigit b
  | 'w' => some Shell.isNameChar
  | 'W' => some fun b => !Shell.isNameChar b
  | 's' => some isSpace
  | 'S' => some fun b => !isSpace b
  | 'h' => some isHorizontal
  | 'H' => some fun b => !isHorizontal b
  | 'v' => some isVertical
  | 'V' => some fun b => !isVertical b
  | 'N' => some (· != 10)
  | _ => none

def isUpper (b : UInt8) : Bool := 65 ≤ b && b ≤ 90

def isLower (b : UInt8) : Bool := 97 ≤ b && b ≤ 122

/-- the octets with a property that a name says -/
def property? (name : Bytes) : Option (UInt8 → Bool) :=
  match Utf8.lossy name with
  | "L" => some fun b => isUpper b || isLower b
  | "Lu" => some isUpper
  | "Ll" => some isLower
  | "N" | "Nd" => some Shell.isDigit
  | "Z" | "Zs" => some (· == 32)
  | "P" => some fun b => (Translate.class? (text "punct")).any (·.contains b) &&
      !(text "$+<=>^`|~").contains b
  | "S" => some fun b => (text "$+<=>^`|~").contains b
  | "Any" => some fun _ => true
  | _ => none

/-- an octet that is said by its number or by a letter, behind a backslash -/
def octet? (bs : Bytes) : Except String (Option (UInt8 × Bytes)) := do
  let isHex (b : UInt8) : Bool :=
    Shell.isDigit b || (97 ≤ b && b ≤ 102) || (65 ≤ b && b ≤ 70)
  let hex (ds : Bytes) : Nat := ds.foldl (fun n d => n * 16 + (
    if Shell.isDigit d then d.toNat - 48 else if 97 ≤ d then d.toNat - 87 else d.toNat - 55)) 0
  match bs with
  | [] => return none
  | b :: rest =>
    match chr b with
    | 't' => return some (9, rest)
    | 'n' => return some (10, rest)
    | 'r' => return some (13, rest)
    | 'f' => return some (12, rest)
    | 'e' => return some (27, rest)
    | 'a' => return some (7, rest)
    | '0' =>
      let ds := rest.takeWhile Shell.Format.isOctal |>.take 2
      return some (Shell.Format.octalValue ds, rest.drop ds.length)
    | 'x' =>
      match rest with
      | 123 :: more =>
        let ds := more.takeWhile isHex
        match more.drop ds.length with
        | 125 :: after =>
          if 255 < hex ds then
            throw "character code point value in \\x\x7b\x7d or \\o\x7b\x7d is too large"
          return some ((hex ds).toUInt8, after)
        | _ => throw "missing terminating \x7d or )"
      | _ =>
        let ds := rest.takeWhile isHex |>.take 2
        return some ((hex ds).toUInt8, rest.drop ds.length)
    | _ => return none

/-- what stands in braces or one octet, behind the letter of a property -/
def propertyName (bs : Bytes) : Except String (Bytes × Bytes) :=
  match bs with
  | 123 :: more =>
    let name := more.takeWhile (· ≠ 125)
    if more.length = name.length then .error "malformed \\P or \\p sequence"
    else .ok (name, more.drop (name.length + 1))
  | b :: rest => .ok ([b], rest)
  | [] => .error "malformed \\P or \\p sequence"

def propertyAt (negated : Bool) (bs : Bytes) : Except String ((UInt8 → Bool) × Bytes) := do
  let (name, rest) ← propertyName bs
  let (negated, name) := match name with
    | 94 :: name => (!negated, name)
    | name => (negated, name)
  match property? name with
  | some p => return (fun b => p b != negated, rest)
  | none => throw "unknown property after \\P or \\p"

/-- one member of a class: a set, or an octet that may open a range -/
inductive Member where
  | set (p : UInt8 → Bool)
  | octet (b : UInt8)

def unclosed : String := "missing terminating ] for character class"

def member (bs : Bytes) : Except String (Member × Bytes) := do
  match bs with
  | [] => throw unclosed
  | 91 :: 58 :: rest =>
    let name := rest.takeWhile (· ≠ 58)
    match rest.drop name.length with
    | 58 :: 93 :: after =>
      let (negated, name) := match name with
        | 94 :: name => (true, name)
        | name => (false, name)
      let known := if name = text "word" then some (Translate.all.filter Shell.isNameChar)
        else if name = text "ascii" then some (Translate.all.filter (· < 128))
        else Translate.class? name
      match known with
      | some ms => return (.set fun b => ms.contains b != negated, after)
      | none => throw "unknown POSIX class name"
    | _ => return (.octet 91, 58 :: rest)
  | 92 :: rest =>
    match rest with
    | [] => throw "\\ at end of pattern"
    | b :: more =>
      if let some p := class? (chr b) then return (.set p, more)
      if b = 98 then return (.octet 8, more)
      if b = 112 ∨ b = 80 then
        let (p, more) ← propertyAt (b = 80) more
        return (.set p, more)
      if let some (b, more) ← octet? rest then return (.octet b, more)
      return (.octet b, more)
  | b :: rest => return (.octet b, rest)

/-- the members of a class until it closes -/
def members : Nat → Bool → Bytes → Except String ((UInt8 → Bool) × Bytes)
  | 0, _, _ => .error unclosed
  | fuel + 1, first, bs => do
    match bs with
    | [] => throw unclosed
    | 93 :: rest =>
      if !first then return (fun _ => false, rest)
    | _ => pure ()
    let (m, rest) ← member bs
    match m, rest with
    | .set p, _ =>
      let (q, rest) ← members fuel false rest
      return (fun b => p b || q b, rest)
    | .octet lo, 45 :: 93 :: _ =>
      let (q, rest) ← members fuel false rest
      return (fun b => b == lo || q b, rest)
    | .octet lo, 45 :: more =>
      match ← member more with
      | (.octet hi, after) =>
        if hi < lo then throw "range out of order in character class"
        let (q, rest) ← members fuel false after
        return (fun b => (lo ≤ b && b ≤ hi) || q b, rest)
      | (.set _, _) =>
        let (q, rest) ← members fuel false rest
        return (fun b => b == lo || q b, rest)
    | .octet lo, _ =>
      let (q, rest) ← members fuel false rest
      return (fun b => b == lo || q b, rest)

def bracket : Read Regex := do
  let s ← get
  match s.rest with
  | 58 :: rest =>
    let name := rest.takeWhile (· ≠ 58)
    if (rest.drop name.length).take 2 = [58, 93] ∧ name.all fun b => isLower b || b == 94 then
      throw "POSIX named classes are supported only within a class"
  | _ => pure ()
  let (negated, body) := match s.rest with
    | 94 :: rest => (true, rest)
    | rest => (false, rest)
  let (p, rest) ← members (body.length + 1) true body
  setRest rest
  let folded (b : UInt8) : Bool := p b || (s.flags.folds && p (swapCase b))
  return .one fun b => folded b != negated

/-- what a digit sequence or a name refers to -/
def reference (n : Nat) : Read Regex := do
  modify fun s => { s with referred := max s.referred n }
  return .back n

def named (name : Bytes) : Read Regex := do
  match (← get).names.lookup name with
  | some n => return .back n
  | none => throw "reference to non-existent subpattern"

/-- a name up to the sign that closes it -/
def nameUntil (close : UInt8) : Read Bytes := do
  let s ← get
  let name := s.rest.takeWhile Shell.isNameChar
  match s.rest.drop name.length with
  | b :: rest =>
    if b ≠ close then throw "syntax error in subpattern name (missing terminator?)"
    if name = [] then throw "subpattern name expected"
    setRest rest
    return name
  | [] => throw "syntax error in subpattern name (missing terminator?)"

def lineStart : Regex := .either .start (.behind true (.one (· == 10)))

def lineFinish : Regex := .either .finish (.ahead true (.one (· == 10)))

/-- what a backslash and what follows it stand for -/
def escape : Read Regex := do
  let s ← get
  match s.rest with
  | [] => throw "\\ at end of pattern"
  | b :: rest =>
    let taken (r : Regex) (rest : Bytes) : Read Regex := do
      setRest rest
      return r
    if let some p := class? (chr b) then return ← taken (.one p) rest
    if let some (b, rest) ← octet? s.rest then return ← taken (literal (dialect s.flags) b) rest
    if Shell.isDigit b then
      let ds := s.rest.takeWhile Shell.isDigit
      setRest (s.rest.drop ds.length)
      return ← reference (Shell.natOf ds)
    match chr b with
    | 'b' => taken (.edge true true) rest
    | 'B' => taken .noEdge rest
    | 'A' | 'G' => taken .start rest
    | 'z' | 'Z' => taken .finish rest
    | 'K' => taken .begins rest
    | 'E' => taken .empty rest
    | 'R' => taken (.either (.both (.one (· == 13)) (.one (· == 10))) (.one isVertical)) rest
    | 'p' | 'P' =>
      let (p, rest) ← propertyAt (b = 80) rest
      taken (.one p) rest
    | 'g' =>
      let (close, body) : Option UInt8 × Bytes := match rest with
        | 123 :: body => (some 125, body)
        | body => (none, body)
      let (relative, digits) := match body with
        | 45 :: body => (true, body)
        | body => (false, body)
      let ds := digits.takeWhile Shell.isDigit
      setRest (digits.drop ds.length)
      if ds = [] then
        setRest body
        match close with
        | some close => named (← nameUntil close)
        | none => throw "a numbered reference must not be zero"
      else
        if close.isSome then setRest ((← get).rest.drop 1)
        reference (if relative then s.groups + 1 - Shell.natOf ds else Shell.natOf ds)
    | 'k' =>
      let close : UInt8 := match rest with
        | 123 :: _ => 125
        | 60 :: _ => 62
        | _ => 39
      setRest (rest.drop 1)
      named (← nameUntil close)
    | 'Q' =>
      let rec quoted : Bytes → Bytes × Bytes
        | [] => ([], [])
        | 92 :: 69 :: rest => ([], rest)
        | b :: rest => ((b :: (quoted rest).1), (quoted rest).2)
      let (held, rest) := quoted rest
      taken (ofOctets (dialect s.flags) held) rest
    | _ =>
      if isUpper b || isLower b then throw "unrecognized character follows \\"
      taken (literal (dialect s.flags) b) rest

/-- the counts in braces -/
def counts? (bs : Bytes) : Except String (Option (Nat × Option Nat × Bytes)) := do
  let (low, rest) := bs.span Shell.isDigit
  if low = [] then return none
  let least := Shell.natOf low
  let check (n : Nat) : Except String Unit :=
    if 65535 < n then throw "number too big in \x7b\x7d quantifier" else pure ()
  match rest with
  | 125 :: rest =>
    check least
    return some (least, some least, rest)
  | 44 :: 125 :: rest =>
    check least
    return some (least, none, rest)
  | 44 :: more =>
    let (high, rest) := more.span Shell.isDigit
    match high, rest with
    | _ :: _, 125 :: rest =>
      check least
      check (Shell.natOf high)
      if Shell.natOf high < least then throw "numbers out of order in \x7b\x7d quantifier"
      return some (least, some (Shell.natOf high), rest)
    | _, _ => return none
  | _ => return none

/-- how often something is repeated -/
def repeats? (bs : Bytes) : Except String (Option (Nat × Option Nat × Bytes)) :=
  match bs with
  | 42 :: rest => .ok (some (0, none, rest))
  | 43 :: rest => .ok (some (1, none, rest))
  | 63 :: rest => .ok (some (0, some 1, rest))
  | 123 :: rest => counts? rest
  | _ => .ok none

def repetition (r : Regex) : Read Regex := do
  match ← repeats? (← get).rest with
  | none => return r
  | some (least, most, rest) =>
    match rest with
    | 63 :: rest =>
      setRest rest
      return .seldom least most r
    | 43 :: rest =>
      setRest rest
      return .settled (.repeated least most r)
    | _ =>
      setRest rest
      return .repeated least most r

/-- the lengths of what an expression matches, where they are bounded by its form -/
def width? : Regex → Option Nat
  | .one _ => some 1
  | .both a b => do return (← width? a) + (← width? b)
  | .either a b => do
    let m ← width? a
    let n ← width? b
    if m = n then some m else none
  | .group _ r | .settled r => width? r
  | .repeated least most r | .seldom least most r => do
    if most = some least then return (← width? r) * least else none
  | .back _ => none
  | _ => some 0

/-- each alternative of a condition on what stands in front has one length -/
def isBounded : Regex → Bool
  | .either a b => isBounded a && isBounded b
  | r => (width? r).isSome

def isFlag (b : UInt8) : Bool := (text "imsx-").contains b

def setFlags (word : Bytes) (f : Flags) : Flags :=
  (word.foldl (fun ((on, f) : Bool × Flags) b => match chr b with
    | '-' => (false, f)
    | 'i' => (on, { f with folds := on })
    | 'm' => (on, { f with lines := on })
    | 's' => (on, { f with all := on })
    | _ => (on, { f with spaced := on })) (true, f)).2

def unclosedGroup : String := "missing closing parenthesis"

mutual

def alternatives : Nat → Read Regex
  | 0 => throw "regular expression is too large"
  | fuel + 1 => do
    let a ← sequence fuel .empty
    match (← get).rest with
    | 124 :: rest =>
      setRest rest
      return .either a (← alternatives fuel)
    | _ => return a

/-- what stands in a group, until it closes -/
def inGroup : Nat → Read Regex
  | 0 => throw "regular expression is too large"
  | fuel + 1 => do
    let s ← get
    set { s with depth := s.depth + 1 }
    let r ← alternatives fuel
    match (← get).rest with
    | 41 :: rest =>
      modify fun t => { t with rest := rest, depth := s.depth, flags := s.flags }
      return r
    | _ => throw unclosedGroup

def sequence : Nat → Regex → Read Regex
  | 0, _ => throw "regular expression is too large"
  | fuel + 1, done => do
    let s ← get
    let go (r : Regex) : Read Regex := do
      let r ← repetition r
      sequence fuel (.both done r)
    let taken (r : Regex) (rest : Bytes) : Read Regex := do
      setRest rest
      go r
    let plain (r : Regex) (rest : Bytes) : Read Regex := do
      setRest rest
      sequence fuel (.both done r)
    let numbered (name : Option Bytes) : Read Regex := do
      let n := (← get).groups + 1
      modify fun t => { t with
        groups := n
        names := match name with
          | some name => (name, n) :: t.names
          | none => t.names }
      let r ← inGroup fuel
      go (.group n r)
    match s.rest with
    | [] | 124 :: _ => return done
    | 41 :: _ => if s.depth = 0 then throw "unmatched closing parenthesis" else return done
    | 40 :: 63 :: 35 :: rest =>
      match rest.dropWhile (· ≠ 41) with
      | _ :: rest => plain .empty rest
      | [] => throw "missing ) after (?# comment"
    | 40 :: 63 :: rest =>
      let opened (rest : Bytes) : Read Regex := do
        setRest rest
        inGroup fuel
      match rest with
      | 58 :: rest => go (← opened rest)
      | 62 :: rest => go (.settled (← opened rest))
      | 61 :: rest => go (.ahead true (← opened rest))
      | 33 :: rest => go (.ahead false (← opened rest))
      | 60 :: 61 :: rest =>
        let r ← opened rest
        if !isBounded r then throw "lookbehind assertion is not fixed length"
        go (.behind true r)
      | 60 :: 33 :: rest =>
        let r ← opened rest
        if !isBounded r then throw "lookbehind assertion is not fixed length"
        go (.behind false r)
      | 80 :: 60 :: rest | 60 :: rest =>
        setRest rest
        numbered (some (← nameUntil 62))
      | 39 :: rest =>
        setRest rest
        numbered (some (← nameUntil 39))
      | 80 :: 61 :: rest =>
        setRest rest
        go (← named (← nameUntil 41))
      | _ =>
        let word := rest.takeWhile isFlag
        match rest.drop word.length with
        | 41 :: after =>
          modify fun t => { t with flags := setFlags word t.flags }
          plain .empty after
        | 58 :: after =>
          set { s with rest := after, flags := setFlags word s.flags }
          let r ← inGroup fuel
          modify fun t => { t with flags := s.flags }
          go r
        | [] => throw unclosedGroup
        | _ => throw "unrecognized character after (? or (?-"
    | 40 :: rest =>
      setRest rest
      numbered none
    | 91 :: rest =>
      setRest rest
      go (← bracket)
    | 92 :: rest =>
      setRest rest
      go (← escape)
    | 94 :: rest => taken (if s.flags.lines then lineStart else .start) rest
    | 36 :: rest => taken (if s.flags.lines then lineFinish else .finish) rest
    | 46 :: rest => taken (.one fun b => s.flags.all || b != 10) rest
    | b :: rest =>
      if s.flags.spaced && isSpace b then plain .empty rest
      else if s.flags.spaced && b = 35 then plain .empty (rest.dropWhile (· ≠ 10))
      else if (← repeats? s.rest).isSome then throw "quantifier does not follow a repeatable item"
      else taken (literal (dialect s.flags) b) rest

end

/-- the expression that octets spell -/
def read? (folds : Bool) (bs : Bytes) : Except String Regex := do
  let (r, s) ← (alternatives (4 * bs.length + 8)).run { rest := bs, flags := { folds := folds } }
  if s.groups < s.referred then throw "reference to non-existent subpattern"
  match s.rest with
  | [] => return r
  | _ => throw "unmatched closing parenthesis"

end JarLauncher.Tool.Regex.Lookaround
