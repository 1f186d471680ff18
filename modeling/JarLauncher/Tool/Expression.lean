import JarLauncher.Tool.Regex
import JarLauncher.Tool.Sorting.Order

/-! Expressions that are given as arguments, one for each number, text and sign. -/

namespace JarLauncher.Tool

open Shell (text)

namespace Expression

/-- why there is no value: something wrong with the expression, or with a value in it -/
structure Fault where
  status : Nat
  words : List Bytes

/-- the arguments that are still to be read -/
abbrev Eval := StateT (List Bytes) (Except Fault)

def syntaxFault {α : Type} (words : List Bytes) : Eval α :=
  throw ⟨2, text "syntax error: " :: words⟩

def numberText (n : Int) : Bytes := text (toString n)

def int? (bs : Bytes) : Option Int :=
  match bs with
  | 45 :: ds => (Shell.natOf? ds).map fun n => -(n : Int)
  | ds => (Shell.natOf? ds).map Int.ofNat

/-- nothing, or a number that is zero -/
def isNull (bs : Bytes) : Bool :=
  bs = [] || (int? bs = some 0)

def integer (bs : Bytes) : Eval Int :=
  match int? bs with
  | some n => return n
  | none => throw ⟨2, [text "non-integer argument"]⟩

def accept (sign : String) : Eval Bool := do
  match ← get with
  | a :: rest =>
    if a = text sign then
      set rest
      return true
    else return false
  | [] => return false

/-- the first of the signs that is next -/
def acceptAny : List String → Eval (Option String)
  | [] => return none
  | sign :: more => do if ← accept sign then return some sign else acceptAny more

def truth (b : Bool) : Bytes := if b then [49] else [48]

/-- what the first group of an expression matches at the front, or how much all of it does -/
def matched (subject pattern : Bytes) : Eval Bytes := do
  match Regex.read? {} pattern with
  | .error message => throw ⟨2, [text message]⟩
  | .ok (r, groups) =>
    let input := Unix.Act.octets subject
    match r.matchAt? input 0 with
    | none => return if groups = 0 then [48] else []
    | some m => return if groups = 0 then Shell.decimal m.stop else m.group input 1

/-- what a number of octets from one on, counted from 1, are -/
def part (subject first count : Bytes) : Bytes :=
  match int? first, int? count with
  | some i, some n =>
    if 1 ≤ i ∧ 1 ≤ n then (subject.drop (i.toNat - 1)).take n.toNat else []
  | _, _ => []

def compareValues (op : String) (a b : Bytes) : Bool :=
  let o := match int? a, int? b with
    | some m, some n => compare m n
    | _, _ => Sorting.compareOctets a b
  match op with
  | "<" => o = .lt
  | "<=" => o ≠ .gt
  | "=" | "==" => o = .eq
  | "!=" => o ≠ .eq
  | ">=" => o ≠ .lt
  | _ => o = .gt

mutual

/-- a value of the lowest level; `last` is what stood before it, for complaints -/
def either : Nat → Eval Bytes
  | 0 => syntaxFault []
  | fuel + 1 => do
    let a ← also fuel
    eitherFrom fuel a

def eitherFrom : Nat → Bytes → Eval Bytes
  | 0, a => return a
  | fuel + 1, a => do
    if ← accept "|" then
      let b ← also fuel
      eitherFrom fuel (if !isNull a then a else if !isNull b then b else [48])
    else return a

def also : Nat → Eval Bytes
  | 0 => syntaxFault []
  | fuel + 1 => do
    let a ← comparison fuel
    alsoFrom fuel a

def alsoFrom : Nat → Bytes → Eval Bytes
  | 0, a => return a
  | fuel + 1, a => do
    if ← accept "&" then
      let b ← comparison fuel
      alsoFrom fuel (if isNull a || isNull b then [48] else a)
    else return a

def comparison : Nat → Eval Bytes
  | 0 => syntaxFault []
  | fuel + 1 => do
    let a ← sum fuel
    comparisonFrom fuel a

def comparisonFrom : Nat → Bytes → Eval Bytes
  | 0, a => return a
  | fuel + 1, a => do
    match ← acceptAny ["<", "<=", "=", "==", "!=", ">=", ">"] with
    | some op =>
      let b ← sum fuel
      comparisonFrom fuel (truth (compareValues op a b))
    | none => return a

def sum : Nat → Eval Bytes
  | 0 => syntaxFault []
  | fuel + 1 => do
    let a ← product fuel
    sumFrom fuel a

def sumFrom : Nat → Bytes → Eval Bytes
  | 0, a => return a
  | fuel + 1, a => do
    match ← acceptAny ["+", "-"] with
    | some op =>
      let b ← product fuel
      let m ← integer a
      let n ← integer b
      sumFrom fuel (numberText (if op = "+" then m + n else m - n))
    | none => return a

def product : Nat → Eval Bytes
  | 0 => syntaxFault []
  | fuel + 1 => do
    let a ← colon fuel
    productFrom fuel a

def productFrom : Nat → Bytes → Eval Bytes
  | 0, a => return a
  | fuel + 1, a => do
    match ← acceptAny ["*", "/", "%"] with
    | some op =>
      let b ← colon fuel
      let m ← integer a
      let n ← integer b
      if op ≠ "*" ∧ n = 0 then throw ⟨2, [text "division by zero"]⟩
      productFrom fuel (numberText (if op = "*" then m * n
        else if op = "/" then Int.tdiv m n else Int.tmod m n))
    | none => return a

def colon : Nat → Eval Bytes
  | 0 => syntaxFault []
  | fuel + 1 => do
    let a ← word fuel
    colonFrom fuel a

def colonFrom : Nat → Bytes → Eval Bytes
  | 0, a => return a
  | fuel + 1, a => do
    if ← accept ":" then
      let b ← word fuel
      colonFrom fuel (← matched a b)
    else return a

/-- a value that is one word, or one that a word asks for -/
def word : Nat → Eval Bytes
  | 0 => syntaxFault []
  | fuel + 1 => do
    if ← accept "+" then return ← simple fuel
    if ← accept "length" then return Shell.decimal (← word fuel).length
    if ← accept "match" then
      let a ← word fuel
      return ← matched a (← word fuel)
    if ← accept "index" then
      let a ← word fuel
      let b ← word fuel
      return Shell.decimal ((a.findIdx? (b.contains ·)).elim 0 (· + 1))
    if ← accept "substr" then
      let a ← word fuel
      let b ← word fuel
      return part a b (← word fuel)
    simple fuel

def simple : Nat → Eval Bytes
  | 0 => syntaxFault []
  | fuel + 1 => do
    match ← get with
    | [] => syntaxFault [text "missing argument"]
    | a :: rest =>
      set rest
      if a = text "(" then
        let b ← either fuel
        match ← get with
        | [] => syntaxFault [text "expecting ')' after ", Quoting.plain b]
        | c :: rest =>
          if c = text ")" then
            set rest
            return b
          syntaxFault [text "expecting ')' instead of ", Quoting.plain c]
      else if a = text ")" then syntaxFault [text "unexpected ')'"]
      else return a

end

end Expression

def expr : Routine := fun args => do
  let args := if args.head? = some (text "--") then args.drop 1 else args
  if args.isEmpty then Work.missingOperand
  if args = [text "--help"] ∨ args = [text "--version"] then return
  match (Expression.either (32 * args.length + 32)).run args with
  | .error fault =>
    let words := if fault.words.getLast? = some (text "missing argument") then
        fault.words ++ [text " after ", Quoting.plain (args.getLastD [])]
      else fault.words
    Work.complain words
    throw fault.status
  | .ok (value, rest) =>
    if let extra :: _ := rest then
      Work.complain [text "syntax error: unexpected argument ", Quoting.plain extra]
      throw 2
    Work.putLine value
    if Expression.isNull value then throw 1

end JarLauncher.Tool
