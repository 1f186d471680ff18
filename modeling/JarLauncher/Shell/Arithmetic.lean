import JarLauncher.Shell.Char

/-! Arithmetic on 64-bit integers. An expression is read and evaluated at once; what its value does
not depend on is read only. -/

namespace JarLauncher.Shell.Arithmetic

inductive Operator where
  | le | ge | lt | gt | eq | ne | rem | band | lshift | rshift | mul | add | bor | sub | bxor | div
  deriving DecidableEq

namespace Operator

/-- the lower, the closer it binds -/
def level : Operator → Nat
  | mul | div | rem => 0
  | add | sub => 1
  | lshift | rshift => 2
  | lt | le | gt | ge => 3
  | eq | ne => 4
  | band => 5
  | bxor => 6
  | bor => 7

def lowest : Nat := 8

end Operator

inductive Token where
  | number (n : Int)
  | name (bs : Bytes)
  | binary (op : Operator)
  /-- an assignment, with an operator or without -/
  | assign (op : Option Operator)
  | or | and | not | complement | open | close | question | colon
  | bad
  | endOfText
  deriving DecidableEq

inductive Fault where
  | syntax_ (text : String)
  | number (bs : Bytes)
  | readOnly (name : Bytes)
  /-- a quotient that is out of range -/
  | overflow

/-- how many numbers there are: as many as words of 64 bits -/
def words : Nat := 18446744073709551616

/-- a number as it is kept in 64 bits -/
def wrap (n : Int) : Int := Int.bmod n words

def least : Int := -9223372036854775808

def greatest : Int := 9223372036854775807

def clamp (n : Int) : Int := max least (min greatest n)

def digit? (base : Nat) (b : UInt8) : Option Nat :=
  let n := if isDigit b then b.toNat - 48
    else if 97 ≤ b && b ≤ 122 then b.toNat - 87
    else if 65 ≤ b && b ≤ 90 then b.toNat - 55
    else base
  if n < base then some n else none

/-- the digits at the front as a number, and what follows them -/
def digitsFrom (base : Nat) : Nat → Bytes → Nat × Bytes
  | n, [] => (n, [])
  | n, b :: rest =>
    match digit? base b with
    | some d => digitsFrom base (n * base + d) rest
    | none => (n, b :: rest)

def isSpace (b : UInt8) : Bool := b == 32 || (9 ≤ b && b ≤ 13)

/-- The number at the front in the notation of the language C, and what follows it; none if there is
no digit. -/
def scanNat? (bs : Bytes) : Option (Nat × Bytes) :=
  let opens (base : Nat) (rest : Bytes) : Bool := rest.head?.any fun b => (digit? base b).isSome
  match bs with
  | 48 :: x :: rest =>
    if (x = 120 || x = 88) && opens 16 rest then some (digitsFrom 16 0 rest)
    else if (x = 98 || x = 66) && opens 2 rest then some (digitsFrom 2 0 rest)
    else some (digitsFrom 8 0 bs)
  | _ => if opens 10 bs then some (digitsFrom (if bs.head? = some 48 then 8 else 10) 0 bs) else none

/-- the same with white space and a sign in front -/
def scanInt? (bs : Bytes) : Option (Int × Bytes) :=
  match bs.dropWhile isSpace with
  | 45 :: rest => (scanNat? rest).map fun (n, rest) => (-(n : Int), rest)
  | 43 :: rest => (scanNat? rest).map fun (n, rest) => ((n : Int), rest)
  | rest => (scanNat? rest).map fun (n, rest) => ((n : Int), rest)

/-- the value of a variable as a number; no text at all counts as 0 -/
def valueOf? (bs : Bytes) : Option Int :=
  let (n, rest) := (scanInt? bs).getD (0, bs)
  if n < least ∨ greatest < n ∨ rest.any (!isSpace ·) then none else some n

/-- a decimal number with nothing but a sign and white space around it -/
def decimal? (bs : Bytes) : Option Int :=
  let (negative, digits) := match bs.dropWhile isSpace with
    | 45 :: rest => (true, rest)
    | 43 :: rest => (false, rest)
    | rest => (false, rest)
  let (ds, rest) := digits.span isDigit
  let n : Int := natOf ds
  let n := if negative then -n else n
  if ds = [] ∨ rest.any (!isSpace ·) ∨ n < least ∨ greatest < n then none else some n

/-- an expression while it is read -/
structure State where
  rest : Bytes
  /-- the token after what was read -/
  last : Token
  lookup : Bytes → Option Bytes
  isReadOnly : Bytes → Bool
  /-- the variables that were set, the last one first -/
  assigned : List (Bytes × Int)

abbrev Eval := EStateM Fault State

/-- an operator, or an assignment with it if an equals sign follows -/
def orAssign (op : Operator) (rest : Bytes) : Token × Bytes :=
  match rest with
  | 61 :: more => (.assign (some op), more)
  | _ => (.binary op, rest)

def scanToken (bs : Bytes) : Token × Bytes :=
  match bs with
  | [] => (.endOfText, [])
  | b :: rest =>
    let followed (c : UInt8) : Bool := rest.head? = some c
    match chr b with
    | '=' => if followed 61 then (.binary .eq, rest.drop 1) else (.assign none, rest)
    | '>' =>
      if followed 61 then (.binary .ge, rest.drop 1)
      else if followed 62 then orAssign .rshift (rest.drop 1)
      else (.binary .gt, rest)
    | '<' =>
      if followed 61 then (.binary .le, rest.drop 1)
      else if followed 60 then orAssign .lshift (rest.drop 1)
      else (.binary .lt, rest)
    | '|' => if followed 124 then (.or, rest.drop 1) else orAssign .bor rest
    | '&' => if followed 38 then (.and, rest.drop 1) else orAssign .band rest
    | '!' => if followed 61 then (.binary .ne, rest.drop 1) else (.not, rest)
    | '(' => (.open, rest)
    | ')' => (.close, rest)
    | '*' => orAssign .mul rest
    | '/' => orAssign .div rest
    | '%' => orAssign .rem rest
    | '+' => orAssign .add rest
    | '-' => orAssign .sub rest
    | '~' => (.complement, rest)
    | '^' => orAssign .bxor rest
    | '?' => (.question, rest)
    | ':' => (.colon, rest)
    | _ =>
      if isNameStart b then
        let (name, after) := bs.span isNameChar
        (.name name, after)
      else match scanNat? bs with
        | some (n, after) => (.number (clamp n), after)
        | none => (.bad, bs)

def next : Eval Token := do
  let s ← get
  let (t, rest) := scanToken (s.rest.dropWhile fun b => isBlank b || b == newline)
  set { s with rest := rest }
  return t

def setLast (t : Token) : Eval Unit := modify fun s => { s with last := t }

def fail {α : Type} (message : String) : Eval α := throw (.syntax_ message)

def lookup (name : Bytes) : Eval Int := do
  let s ← get
  match s.assigned.lookup name with
  | some n => return n
  | none =>
    let bs := (s.lookup name).getD []
    match valueOf? bs with
    | some n => return n
    | none => throw (.number bs)

def assign (name : Bytes) (n : Int) : Eval Int := do
  let s ← get
  if s.isReadOnly name then throw (.readOnly name)
  set { s with assigned := (name, n) :: s.assigned }
  return n

def truth (b : Bool) : Int := if b then 1 else 0

/-- an operation on the bits of two numbers -/
def bitwise (f : Nat → Nat → Nat) (a b : Int) : Int :=
  let bits (n : Int) : Nat := (n % words).toNat
  wrap (f (bits a) (bits b))

def operate (op : Operator) (a b : Int) : Eval Int :=
  let count := (b % 64).toNat
  match op with
  | .le => return truth (a ≤ b)
  | .ge => return truth (b ≤ a)
  | .lt => return truth (a < b)
  | .gt => return truth (b < a)
  | .eq => return truth (a = b)
  | .ne => return truth (a ≠ b)
  | .rem =>
    if b = 0 then fail "division by zero"
    else if a = least ∧ b = -1 then throw .overflow
    else return a.tmod b
  | .div =>
    if b = 0 then fail "division by zero"
    else if a = least ∧ b = -1 then throw .overflow
    else return a.tdiv b
  | .band => return bitwise (· &&& ·) a b
  | .bxor => return bitwise (· ^^^ ·) a b
  | .bor => return bitwise (· ||| ·) a b
  | .lshift => return wrap (a * Nat.pow 2 count)
  | .rshift => return a / Nat.pow 2 count
  | .mul => return wrap (a * b)
  | .add => return wrap (a + b)
  | .sub => return wrap (a - b)

mutual

/-- an expression that opens with the token `t`; `idle` if its value is not asked for -/
def assignment (fuel : Nat) (t : Token) (idle : Bool) : Eval Int :=
  match fuel with
  | 0 => fail "expecting primary"
  | fuel + 1 => do
    let op ← next
    match t, op with
    | .name name, .assign op => do
      let n ← assignment fuel (← next) idle
      if idle then return n
      match op with
      | none => assign name n
      | some op => assign name (← operate op (← lookup name) n)
    | _, _ => condition fuel t op idle

def condition (fuel : Nat) (t op : Token) (idle : Bool) : Eval Int :=
  match fuel with
  | 0 => fail "expecting primary"
  | fuel + 1 => do
    let a ← disjunction fuel t op idle
    if (← get).last ≠ .question then return a
    let b ← assignment fuel (← next) (idle || a = 0)
    if (← get).last ≠ .colon then fail "expecting ':'"
    let t ← next
    let c ← condition fuel t (← next) (idle || a ≠ 0)
    return if a ≠ 0 then b else c

def disjunction (fuel : Nat) (t op : Token) (idle : Bool) : Eval Int :=
  match fuel with
  | 0 => fail "expecting primary"
  | fuel + 1 => do
    let a ← conjunction fuel t op idle
    if (← get).last ≠ .or then return a
    let t ← next
    let b ← disjunction fuel t (← next) (idle || a ≠ 0)
    return truth (a ≠ 0 || b ≠ 0)

def conjunction (fuel : Nat) (t op : Token) (idle : Bool) : Eval Int :=
  match fuel with
  | 0 => fail "expecting primary"
  | fuel + 1 => do
    let a ← primary fuel t op idle
    let a ← match (← get).last with
      | .binary op => operations fuel a op Operator.lowest idle
      | _ => pure a
    if (← get).last ≠ .and then return a
    let t ← next
    let b ← conjunction fuel t (← next) (idle || a = 0)
    return truth (a ≠ 0 && b ≠ 0)

/-- `a` and the operations on it that bind closer than `bound` -/
def operations (fuel : Nat) (a : Int) (op : Operator) (bound : Nat) (idle : Bool) : Eval Int :=
  match fuel with
  | 0 => fail "expecting primary"
  | fuel + 1 => do
    let t ← next
    let b ← primary fuel t (← next) idle
    let b ← match (← get).last with
      | .binary op2 =>
        if op2.level < op.level then operations fuel b op2 op.level idle else pure b
      | _ => pure b
    let a ← if idle then pure b else operate op a b
    match (← get).last with
    | .binary op2 => if bound ≤ op2.level then return a else operations fuel a op2 bound idle
    | _ => return a

/-- an operand that opens with `t`, which `op` follows -/
def primary (fuel : Nat) (t op : Token) (idle : Bool) : Eval Int :=
  match fuel with
  | 0 => fail "expecting primary"
  | fuel + 1 => do
    match t with
    | .open =>
      let n ← assignment fuel op idle
      if (← get).last ≠ .close then fail "expecting ')'"
      setLast (← next)
      return n
    | .number n =>
      setLast op
      return n
    | .name name =>
      setLast op
      if idle then return 0 else lookup name
    | .binary .add => primary fuel op (← next) idle
    | .binary .sub => return wrap (-(← primary fuel op (← next) idle))
    | .not => return truth ((← primary fuel op (← next) idle) = 0)
    | .complement => return -(← primary fuel op (← next) idle) - 1
    | _ => fail "expecting primary"

end

def expression (fuel : Nat) : Eval Int := do
  let n ← assignment fuel (← next) false
  if (← get).last ≠ .endOfText then fail "expecting EOF"
  return n

/-- the value of an expression or what is wrong with it, and the variables it set, in order -/
def evaluate (lookup : Bytes → Option Bytes) (isReadOnly : Bytes → Bool) (bs : Bytes) :
    Except Fault Int × List (Bytes × Int) :=
  match (expression (8 * bs.length + 16)).run ⟨bs, .endOfText, lookup, isReadOnly, []⟩ with
  | .ok n s => (.ok n, s.assigned.reverse)
  | .error e s => (.error e, s.assigned.reverse)

end JarLauncher.Shell.Arithmetic
