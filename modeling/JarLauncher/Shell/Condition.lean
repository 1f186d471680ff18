import JarLauncher.Shell.Arithmetic

/-! Conditions on texts, numbers and files, as a list of arguments states them. A condition is read
from a position in the list, and leaves the position of the last argument it used. -/

namespace JarLauncher.Shell.Condition

/-- answers what a condition asks of a file, by a letter, or of two files -/
structure Files where
  one : Char → Bytes → Bool
  two : String → Bytes → Bytes → Bool

/-- an answer, or what is wrong with the condition -/
abbrev Answer (α : Type) := Except Bytes α

def unaryLetters : List Char := "bcdefghkLnOGprsStuwxz".toList

def unary? (bs : Bytes) : Option Char :=
  match bs with
  | [45, b] => if unaryLetters.contains (chr b) then some (chr b) else none
  | _ => none

def binaryOps : List String :=
  ["=", "!=", "<", ">", "-eq", "-ne", "-lt", "-le", "-gt", "-ge", "-nt", "-ot", "-ef"]

/-- the operators by their octets -/
def binaryTable : List (Bytes × String) := binaryOps.map fun op => (text op, op)

def binary? (bs : Bytes) : Option String := binaryTable.lookup bs

def number (bs : Bytes) : Answer Int :=
  match Arithmetic.decimal? bs with
  | some n => .ok n
  | none => .error (text "Illegal number: " ++ bs)

def applyUnary (files : Files) (letter : Char) (arg : Bytes) : Bool :=
  match letter with
  | 'n' => !arg.isEmpty
  | 'z' => arg.isEmpty
  | c => files.one c arg

def applyBinary (files : Files) (a : Bytes) (op : String) (b : Bytes) : Answer Bool := do
  match op with
  | "=" => return a == b
  | "!=" => return a != b
  | "<" => return decide (a < b)
  | ">" => return decide (b < a)
  | "-eq" => return (← number a) == (← number b)
  | "-ne" => return (← number a) != (← number b)
  | "-lt" => return (← number a) < (← number b)
  | "-le" => return (← number a) ≤ (← number b)
  | "-gt" => return (← number b) < (← number a)
  | "-ge" => return (← number b) ≤ (← number a)
  | op => return files.two op a b

inductive Token where
  | finish
  | operand
  | either
  | both
  | negation
  | opening
  | closing
  | unary (letter : Char)
  | binary (op : String)
  deriving DecidableEq

/-- what the argument at a position is; a letter without an operand after it is one itself -/
def token (at_ : List Bytes) : Token :=
  match at_ with
  | [] => .finish
  | s :: rest =>
    if s = text "-o" then .either
    else if s = text "-a" then .both
    else if s = text "!" then .negation
    else if s = text "(" then (if rest.isEmpty then .operand else .opening)
    else if s = text ")" then .closing
    else match binary? s with
      | some op => .binary op
      | none => match unary? s with
        | none => .operand
        | some c =>
          let isOperand : Bool := match rest with
            | [] => true
            | [_] => false
            | next :: _ => (binary? next).isSome
          if isOperand then .operand else .unary c

mutual

/-- one of several conditions; what was true so far is `done` -/
def anyOf (files : Files) (fuel : Nat) (done : Bool) (t : Token) (at_ : List Bytes) :
    Answer (Bool × List Bytes) :=
  match fuel with
  | 0 => .error (text "too many arguments")
  | fuel + 1 => do
    let (a, at_) ← allOf files fuel true t at_
    if token (at_.drop 1) = .either then
      anyOf files fuel (done || a) (token (at_.drop 2)) (at_.drop 2)
    else return (done || a, at_)

def allOf (files : Files) (fuel : Nat) (done : Bool) (t : Token) (at_ : List Bytes) :
    Answer (Bool × List Bytes) :=
  match fuel with
  | 0 => .error (text "too many arguments")
  | fuel + 1 => do
    let (a, at_) ← negated files fuel t at_
    if token (at_.drop 1) = .both then
      allOf files fuel (done && a) (token (at_.drop 2)) (at_.drop 2)
    else return (done && a, at_)

def negated (files : Files) (fuel : Nat) (t : Token) (at_ : List Bytes) :
    Answer (Bool × List Bytes) :=
  match fuel with
  | 0 => .error (text "too many arguments")
  | fuel + 1 => do
    if t != .negation then return ← primary files fuel t at_
    let next := token (at_.drop 1)
    let (a, at_) ← negated files fuel next (if next = .finish then at_ else at_.drop 1)
    return (!a, at_)

def primary (files : Files) (fuel : Nat) (t : Token) (at_ : List Bytes) :
    Answer (Bool × List Bytes) :=
  match fuel with
  | 0 => .error (text "too many arguments")
  | fuel + 1 => do
    let here := at_.headD []
    match t with
    | .finish => return (false, at_)
    | .opening =>
      let at_ := at_.drop 1
      if token at_ = .closing then return (false, at_)
      let (a, at_) ← anyOf files fuel false (token at_) at_
      if token (at_.drop 1) != .closing then throw (text "closing paren expected")
      return (a, at_.drop 1)
    | .unary c =>
      match at_.drop 1 with
      | [] => throw (here ++ text ": argument expected")
      | arg :: rest => return (applyUnary files c arg, arg :: rest)
    | _ =>
      match token (at_.drop 1) with
      | .binary op =>
        match at_.drop 2 with
        | [] => throw (text (op ++ ": argument expected"))
        | arg :: rest => return (← applyBinary files here op arg, arg :: rest)
      | _ => return (!here.isEmpty, at_)

end

/-- the value of all arguments, or the first that is left over -/
def evaluate (files : Files) (t : Token) (args : List Bytes) : Answer Bool := do
  match ← anyOf files (4 * args.length + 8) false t args with
  | (_, x :: _ :: _) => throw (x ++ text ": unexpected operator")
  | (a, _) => return a

/-- Whether the condition holds, or what is wrong with it. Three arguments with an operator in the
middle are an operation; else three or four may be negated or in parentheses as a whole. -/
def holds (files : Files) (args : List Bytes) : Answer Bool := do
  match args with
  | [] => return false
  | [_, op, _] =>
    if (binary? op).isSome then evaluate files .operand args else framed 2 args
  | [_, _, _, _] => framed 2 args
  | _ => evaluate files (token args) args
where
  framed (depth : Nat) (args : List Bytes) : Answer Bool := do
    match depth with
    | 0 => evaluate files (token args) args
    | depth + 1 =>
      if args.head? = some (text "(") ∧ args.getLast? = some (text ")") then
        let inner := args.tail.dropLast
        evaluate files (token inner) inner
      else if args.head? = some (text "!") then
        let inner := args.tail
        let value ← match inner with
          | [] => pure false
          | [_, op, _] =>
            if (binary? op).isSome then evaluate files .operand inner else framed depth inner
          | _ => evaluate files (token inner) inner
        return !value
      else evaluate files (token args) args

end JarLauncher.Shell.Condition
