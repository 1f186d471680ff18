import JarLauncher.Tool.Translate

/-! Regular expressions on octets, in the basic and the extended notation. A match is the longest at
the first place where there is one; groups keep what they matched last. The ways to match come in an
order of preference, which other notations go by. -/

namespace JarLauncher.Tool

open Shell (text chr)

inductive Regex where
  | empty
  | one (accepts : UInt8 → Bool)
  | start
  | finish
  /-- between a word and what is none: at its start, its end, either of them, or neither -/
  | edge (opens closes : Bool)
  | noEdge
  | group (number : Nat) (r : Regex)
  | back (number : Nat)
  | both (a b : Regex)
  | either (a b : Regex)
  | repeated (least : Nat) (most : Option Nat) (r : Regex)
  /-- repeated as seldom as it can be -/
  | seldom (least : Nat) (most : Option Nat) (r : Regex)
  /-- matched in the way that comes first, and in no other -/
  | settled (r : Regex)
  /-- what follows matches, or does not -/
  | ahead (wanted : Bool) (r : Regex)
  /-- what stands in front matches, or does not -/
  | behind (wanted : Bool) (r : Regex)
  /-- the match is said to start here -/
  | begins

namespace Regex

/-- a place in the text, and what the groups have matched so far -/
structure State where
  at_ : Nat
  groups : List (Nat × Nat × Nat) := []
  /-- where the match is said to start -/
  begun : Option Nat := none

abbrev Outcomes := List State

/-- of those at one place the first -/
def distinct (xs : Outcomes) : Outcomes :=
  xs.foldr (fun x rest => x :: rest.filter fun y => y.at_ ≠ x.at_) []

def isWordAt (input : ByteArray) (i : Nat) : Bool := (input[i]?).any Shell.isNameChar

def atEdge (input : ByteArray) (i : Nat) : Bool × Bool :=
  let before := i ≠ 0 && isWordAt input (i - 1)
  let after := isWordAt input i
  (!before && after, before && !after)

/-- go on as long as more can be matched, and then with less -/
def repeatFrom (step : State → Outcomes) : Nat → Nat → Option Nat → State → Outcomes
  | 0, _, _, s => [s]
  | fuel + 1, least, most, s =>
    let more := if most = some 0 then []
      else (step s).flatMap fun t =>
        if t.at_ = s.at_ then (if least ≤ 1 then [t] else [])
        else repeatFrom step fuel (least - 1) (most.map (· - 1)) t
    distinct (more ++ if least = 0 then [s] else [])

/-- go on only if what is left does not match with less -/
def repeatSeldom (step : State → Outcomes) : Nat → Nat → Option Nat → State → Outcomes
  | 0, _, _, s => [s]
  | fuel + 1, least, most, s =>
    let more := if most = some 0 then []
      else (step s).flatMap fun t =>
        if t.at_ = s.at_ then (if least ≤ 1 then [t] else [])
        else repeatSeldom step fuel (least - 1) (most.map (· - 1)) t
    distinct ((if least = 0 then [s] else []) ++ more)

/-- the places where a match that starts at a place may end, the preferred one first -/
def outcomes (input : ByteArray) : Regex → State → Outcomes
  | empty, s => [s]
  | one accepts, s =>
    if (input[s.at_]?).any accepts then [{ s with at_ := s.at_ + 1 }] else []
  | start, s => if s.at_ = 0 then [s] else []
  | finish, s => if s.at_ = input.size then [s] else []
  | edge opens closes, s =>
    let (o, c) := atEdge input s.at_
    if (opens && o) || (closes && c) then [s] else []
  | noEdge, s =>
    let (o, c) := atEdge input s.at_
    if o || c then [] else [s]
  | group n r, s =>
    (outcomes input r s).map fun t => { t with groups := (n, s.at_, t.at_) :: t.groups }
  | back n, s =>
    match s.groups.lookup n with
    | none => []
    | some (i, j) =>
      let size := j - i
      if (input.extract i j).toList = (input.extract s.at_ (s.at_ + size)).toList ∧
          s.at_ + size ≤ input.size then [{ s with at_ := s.at_ + size }]
      else []
  | both a b, s => distinct ((outcomes input a s).flatMap (outcomes input b))
  | either a b, s => distinct (outcomes input a s ++ outcomes input b s)
  | repeated least most r, s => repeatFrom (outcomes input r) (input.size + 2) least most s
  | seldom least most r, s => repeatSeldom (outcomes input r) (input.size + 2) least most s
  | settled r, s => (outcomes input r s).take 1
  | ahead wanted r, s =>
    match (outcomes input r s).head?, wanted with
    | some t, true => [{ t with at_ := s.at_ }]
    | none, false => [s]
    | _, _ => []
  | behind wanted r, s =>
    let found := (List.range (s.at_ + 1)).findSome? fun i =>
      (outcomes input r { s with at_ := s.at_ - i }).find? fun t => t.at_ = s.at_
    match found, wanted with
    | some t, true => [t]
    | none, false => [s]
    | _, _ => []
  | begins, s => [{ s with begun := some s.at_ }]

structure Match where
  start : Nat
  stop : Nat
  groups : List (Nat × Nat × Nat)

def longest (xs : Outcomes) : Option State :=
  xs.foldl (fun best x => match best with
    | some b => if b.at_ < x.at_ then some x else best
    | none => some x) none

/-- the match that starts at a place -/
def matchAt? (r : Regex) (input : ByteArray) (i : Nat) : Option Match :=
  (longest (outcomes input r { at_ := i })).map fun s => ⟨i, s.at_, s.groups⟩

/-- the preferred match that starts at a place -/
def preferredAt? (r : Regex) (input : ByteArray) (i : Nat) : Option Match :=
  (outcomes input r { at_ := i }).head?.map fun s => ⟨s.begun.getD i, s.at_, s.groups⟩

/-- the first match from a place on -/
def find? (r : Regex) (input : ByteArray) (from_ : Nat) : Option Match :=
  (List.range (input.size + 1 - from_)).findSome? fun i => r.matchAt? input (from_ + i)

/-- what a group matched -/
def Match.group (m : Match) (input : ByteArray) (n : Nat) : Bytes :=
  if n = 0 then (input.extract m.start m.stop).toList
  else match m.groups.lookup n with
    | some (i, j) => (input.extract i j).toList
    | none => []

/-! Reading the notations. -/

/-- how expressions are written and compared -/
structure Dialect where
  extended : Bool := false
  folds : Bool := false
  /-- in the extended notation, a sign that repeats nothing and a brace that counts nothing are
  taken as well as they can be -/
  lenient : Bool := false
  /-- a class with one bracket where two are needed is refused -/
  wary : Bool := false
  /-- in the basic notation, a count that repeats nothing is refused -/
  strict : Bool := false

/-- reading an expression: what is left of it, the groups so far, and those that are open -/
structure Reading where
  rest : Bytes
  groups : Nat
  depth : Nat
  /-- signs that repeat nothing, the last one first -/
  warnings : List String := []

abbrev Read := StateT Reading (Except String)

def swapCase (b : UInt8) : UInt8 :=
  if 97 ≤ b && b ≤ 122 then b - 32 else if 65 ≤ b && b ≤ 90 then b + 32 else b

def member (n : Dialect) (p : UInt8 → Bool) : Regex :=
  .one fun b => p b || (n.folds && p (swapCase b))

def literal (n : Dialect) (b : UInt8) : Regex := member n (· == b)

def noBracket : String := "Unmatched [, [^, [:, [., or [="

/-- the members of a bracket expression, until it closes; `first` holds before any of them -/
def membersFrom : Nat → Bool → Bytes → Except String ((UInt8 → Bool) × Bytes)
  | 0, _, _ => .error noBracket
  | fuel + 1, first, bs => do
    match bs with
    | [] => throw (if first then "Invalid regular expression" else noBracket)
    | 93 :: rest =>
      if first then memberFrom fuel 93 rest else return (fun _ => false, rest)
    | 91 :: 58 :: rest =>
      let name := rest.takeWhile (· ≠ 58)
      match Translate.class? name, rest.drop name.length with
      | some ms, 58 :: 93 :: rest =>
        let (p, rest) ← membersFrom fuel false rest
        return (fun b => ms.contains b || p b, rest)
      | none, 58 :: 93 :: _ => throw "Invalid character class name"
      | _, _ => throw noBracket
    | 91 :: 46 :: b :: 46 :: 93 :: rest | 91 :: 61 :: b :: 61 :: 93 :: rest =>
      memberFrom fuel b rest
    | b :: rest => memberFrom fuel b rest
where
  memberFrom (fuel : Nat) (lo : UInt8) (rest : Bytes) : Except String ((UInt8 → Bool) × Bytes) := do
    match rest with
    | 45 :: 93 :: _ =>
      let (p, rest) ← membersFrom fuel false rest
      return (fun b => b == lo || p b, rest)
    | 45 :: hi :: rest =>
      if hi < lo then throw "Invalid range end"
      let (p, rest) ← membersFrom fuel false rest
      return (fun b => (lo ≤ b && b ≤ hi) || p b, rest)
    | _ =>
      let (p, rest) ← membersFrom fuel false rest
      return (fun b => b == lo || p b, rest)

def halfClass : String := "character class syntax is [[:space:]], not [:space:]"

/-- what a bracket expression holds looks like the name of a class -/
def isHalfClass (held : Bytes) : Bool :=
  held.head? == some 58 && held.getLast? == some 58 && !held.contains 45 && !held.contains 91 &&
    held.any (· != 58)

def bracket (n : Dialect) : Read Regex := do
  let s ← get
  let (negated, body) := match s.rest with
    | 94 :: rest => (true, rest)
    | rest => (false, rest)
  let (p, rest) ← membersFrom (body.length + 1) true body
  if n.wary && isHalfClass (body.take (body.length - rest.length - 1)) then throw halfClass
  set { s with rest := rest }
  if negated then
    return .one fun b => !(p b || (n.folds && p (swapCase b)))
  else return member n p

def setRest (rest : Bytes) : Read Unit := modify fun s => { s with rest := rest }

/-- what a sign of the expression does -/
inductive Sign where
  | open | close | either | star | plus | option | count
  deriving DecidableEq

/-- the sign at the front, and what follows it -/
def sign? (n : Dialect) (bs : Bytes) : Option (Sign × Bytes) :=
  let plain? (b : UInt8) : Option Sign := match chr b with
    | '(' => some .open
    | ')' => some .close
    | '|' => some .either
    | '+' => some .plus
    | '?' => some .option
    | '\x7b' => some .count
    | _ => none
  match bs with
  | 42 :: rest => some (.star, rest)
  | 92 :: b :: rest => if n.extended then none else (plain? b).map (·, rest)
  | b :: rest => if n.extended then (plain? b).map (·, rest) else none
  | [] => none

/-- a sign as warnings name it -/
def Sign.shown : Sign → String
  | .star => "*"
  | .plus => "+"
  | .option => "?"
  | .count => "\x7b...\x7d"
  | _ => ""

/-- note that a sign repeats nothing -/
def warnOf (sign : Sign) : Read Unit :=
  modify fun s => { s with warnings := (sign.shown ++ " at start of expression") :: s.warnings }

def badCount : String := "Invalid content of \\\x7b\\\x7d"

def unclosedCount : String := "Unmatched \\\x7b"

/-- a brace that opens no count stands for itself -/
def isPlainBrace (n : Dialect) (rest : Bytes) : Bool :=
  n.extended && n.lenient &&
    let (low, after) := rest.span Shell.isDigit
    let after : Bytes := match after with
      | 44 :: more => more.dropWhile Shell.isDigit
      | more => if low = [] then [] else more
    after.head? != some 125

/-- how often something is repeated, behind the brace that opens it -/
def count (n : Dialect) (bs : Bytes) : Except String (Nat × Option Nat × Bytes) := do
  let (low, rest) := bs.span Shell.isDigit
  let (high, rest) : Option Nat × Bytes := match rest with
    | 44 :: more =>
      let (high, more) := more.span Shell.isDigit
      (Shell.natOf? high, more)
    | _ => (Shell.natOf? low, rest)
  let least := Shell.natOf low
  let rest ← match n.extended, rest with
    | true, 125 :: rest => pure rest
    | false, 92 :: 125 :: rest => pure rest
    | _, rest => throw (if rest.contains 125 then badCount else unclosedCount)
  if (low = [] ∧ high.isNone ∧ !bs.head?.any (· == 44)) || high.any (· < least) then throw badCount
  return (least, high, rest)

/-- the signs of repetition behind something -/
def repetitions (n : Dialect) : Nat → Regex → Read Regex
  | 0, r => return r
  | fuel + 1, r => do
    match sign? n (← get).rest with
    | some (.star, rest) =>
      setRest rest
      repetitions n fuel (.repeated 0 none r)
    | some (.plus, rest) =>
      setRest rest
      repetitions n fuel (.repeated 1 none r)
    | some (.option, rest) =>
      setRest rest
      repetitions n fuel (.repeated 0 (some 1) r)
    | some (.count, rest) =>
      if isPlainBrace n rest then return r
      let (least, most, rest) ← count n rest
      setRest rest
      repetitions n fuel (.repeated least most r)
    | _ => return r

/-- an escape that stands for a class or an edge -/
def escape? (n : Dialect) (b : UInt8) : Option Regex :=
  let isSpace (b : UInt8) : Bool := b == 32 || (9 ≤ b && b ≤ 13)
  match chr b with
  | 'w' => some (.one Shell.isNameChar)
  | 'W' => some (.one fun b => !Shell.isNameChar b)
  | 's' => some (.one isSpace)
  | 'S' => some (.one fun b => !isSpace b)
  | 'b' => some (.edge true true)
  | '<' => some (.edge true false)
  | '>' => some (.edge false true)
  | 'B' => some .noEdge
  | '\x60' => some .start
  | '\'' => some .finish
  | 'n' => some (literal n 10)
  | 't' => some (literal n 9)
  | _ => none

/-- a dollar sign at the front stands for the end of the text -/
def isFinish (n : Dialect) (rest : Bytes) : Bool :=
  n.extended || rest = [] || (match sign? n rest with
    | some (.close, _) | some (.either, _) => true
    | _ => false)

mutual

def alternatives (n : Dialect) : Nat → Read Regex
  | 0 => throw "Regular expression too big"
  | fuel + 1 => do
    let a ← sequence n fuel true .empty
    match sign? n (← get).rest with
    | some (.either, rest) =>
      setRest rest
      return .either a (← alternatives n fuel)
    | _ => return a

/-- a sequence behind what was read of it; `first` holds at its start -/
def sequence (n : Dialect) : Nat → Bool → Regex → Read Regex
  | 0, _, _ => throw "Regular expression too big"
  | fuel + 1, first, done => do
    let s ← get
    let go (r : Regex) : Read Regex := do
      let r ← repetitions n fuel r
      sequence n fuel false (.both done r)
    let taken (r : Regex) (rest : Bytes) : Read Regex := do
      setRest rest
      go r
    match sign? n s.rest with
    | some (.close, rest) =>
      if s.depth = 0 then
        if n.extended then taken (literal n 41) rest else throw "Unmatched ) or \\)"
      else return done
    | some (.either, _) => return done
    | some (.open, rest) =>
      let number := s.groups + 1
      set { s with rest := rest, groups := number, depth := s.depth + 1 }
      let r ← alternatives n fuel
      match sign? n (← get).rest with
      | some (.close, rest) =>
        modify fun t => { t with rest := rest, depth := s.depth }
        go (.group number r)
      | _ => throw "Unmatched ( or \\("
    | some (sign, rest) =>
      if sign = .count && isPlainBrace n rest then taken (literal n 123) rest
      else if first then
        if n.extended then
          if !n.lenient then throw "Invalid preceding regular expression"
          warnOf sign
          if sign = .count then setRest (← count n rest).2.2 else setRest rest
          sequence n fuel false done
        else if sign = .star then taken (literal n 42) rest
        else if sign = .count && n.strict then throw "Invalid preceding regular expression"
        else taken (literal n (s.rest.getD 1 0)) rest
      else taken .empty s.rest
    | none =>
      match s.rest with
      | [] => return done
      | 94 :: rest =>
        if n.extended then
          if first && n.lenient then
            if let some (sign, after) := sign? n rest then
              if sign.shown ≠ "" && !(sign = .count && isPlainBrace n after) then warnOf sign
          taken .start rest
        else if first then
          setRest rest
          sequence n fuel true (.both done .start)
        else taken (literal n 94) rest
      | 36 :: rest => taken (if isFinish n rest then .finish else literal n 36) rest
      | 46 :: rest => taken (.one fun _ => true) rest
      | 91 :: rest =>
        setRest rest
        go (← bracket n)
      | [92] => throw "Trailing backslash"
      | 92 :: b :: rest =>
        if 49 ≤ b && b ≤ 57 then
          let number := b.toNat - 48
          if s.groups < number then throw "Invalid back reference"
          taken (.back number) rest
        else taken ((escape? n b).getD (literal n b)) rest
      | b :: rest => taken (literal n b) rest

end

/-- the expression that octets spell, and what was read of it -/
def readAll? (n : Dialect) (bs : Bytes) : Except String (Regex × Reading) := do
  let (r, s) ← (alternatives n (4 * bs.length + 8)).run ⟨bs, 0, 0, []⟩
  match s.rest with
  | [] => return (r, s)
  | _ => throw "Unmatched ) or \\)"

/-- the expression that octets spell, and how many groups it has -/
def read? (n : Dialect) (bs : Bytes) : Except String (Regex × Nat) :=
  (readAll? n bs).map fun (r, s) => (r, s.groups)

/-- the expression that matches just these octets -/
def ofOctets (n : Dialect) (bs : Bytes) : Regex :=
  bs.foldl (fun r b => .both r (literal n b)) .empty

end Regex
end JarLauncher.Tool
