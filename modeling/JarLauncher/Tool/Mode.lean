import JarLauncher.Shell.Format
import JarLauncher.Unix.System

/-! Permissions: how a change of them is written, and how they are shown. -/

namespace JarLauncher.Tool.Mode

open Unix
open Shell (chr)

/-- what a change does with the bits that it names -/
inductive Operation where
  | add
  | remove
  | assign
  deriving DecidableEq

/-- the bits that a change is about -/
inductive Subject where
  | bits (n : Nat)
  /-- those that someone has, by how far left they stand -/
  | copied (shift : Nat)
  /-- as the bits, and running too for what some may run or enter -/
  | runnable (n : Nat)

structure Step where
  who : List Char
  operation : Operation
  subject : Subject

inductive Change where
  | absolute (mode : Nat)
  | steps (steps : List Step)

def operation? (c : Char) : Option Operation :=
  match c with
  | '+' => some .add
  | '-' => some .remove
  | '=' => some .assign
  | _ => none

def bit? (c : Char) : Option Nat :=
  match c with
  | 'r' => some 0o444
  | 'w' => some 0o222
  | 'x' => some 0o111
  | 's' => some 0o6000
  | 't' => some 0o1000
  | _ => none

def shift? (c : Char) : Option Nat :=
  match c with
  | 'u' => some 6
  | 'g' => some 3
  | 'o' => some 0
  | _ => none

def isOperator (c : Char) : Bool := (operation? c).isSome

def subject? (cs : List Char) : Option Subject :=
  match cs with
  | [c] => match shift? c with
    | some n => some (.copied n)
    | none => bits [c]
  | _ => bits cs
where
  bits (cs : List Char) : Option Subject := do
    let known ← (cs.filter (· ≠ 'X')).mapM bit?
    let n := known.foldl (· ||| ·) 0
    return if cs.contains 'X' then .runnable n else .bits n

/-- the changes behind one list of those concerned -/
def stepsOf? (who : List Char) : Nat → List Char → Option (List Step)
  | 0, _ => none
  | _, [] => some []
  | fuel + 1, c :: cs => do
    let op ← operation? c
    let (body, rest) := cs.span fun c => !isOperator c
    return ⟨who, op, ← subject? body⟩ :: (← stepsOf? who fuel rest)

/-- a change as it is written: an octal number, or a list such as `u=rwx,go-w` -/
def read? (bs : Bytes) : Option Change :=
  if bs ≠ [] ∧ bs.all Shell.Format.isOctal then
    let n := bs.foldl (fun (n : Nat) (b : UInt8) => n * 8 + (b.toNat - 48)) 0
    if n ≤ 0o7777 then some (.absolute n) else none
  else
    let clauses := Path.splitOn 44 bs
    let read (clause : Bytes) : Option (List Step) :=
      let cs := clause.map chr
      let (who, rest) := cs.span fun c => "ugoa".toList.contains c
      if rest = [] then none else stepsOf? who (rest.length + 1) rest
    (clauses.mapM read).map fun ss => .steps ss.flatten

/-- the bits of those concerned -/
def reach (who : List Char) : Nat :=
  if who = [] ∨ who.contains 'a' then 0o7777
  else (who.map fun
    | 'u' => 0o4700
    | 'g' => 0o2070
    | _ => 0o1007).foldl (· ||| ·) 0

def Step.apply (s : Step) (mask : Nat) (isDir : Bool) (mode : Nat) : Nat :=
  let some_ : Nat := match s.subject with
    | .bits n => n
    | .copied shift =>
      let b := mode >>> shift &&& 7
      b ||| b <<< 3 ||| b <<< 6
    | .runnable n => if isDir ∨ mode &&& 0o111 ≠ 0 then n ||| 0o111 else n
  let concerned := reach s.who
  let bits := some_ &&& concerned
  let bits := if s.who = [] then bits - (bits &&& mask) else bits
  match s.operation with
  | .add => mode ||| bits
  | .remove => mode - (mode &&& bits)
  | .assign =>
    let cleared := concerned &&& (if isDir then 0o1777 else 0o7777)
    (mode - (mode &&& cleared)) ||| bits

def Change.apply (c : Change) (mask : Nat) (isDir : Bool) (mode : Nat) : Nat :=
  match c with
  | .absolute n => if isDir then n ||| (mode &&& 0o6000) else n
  | .steps ss => ss.foldl (fun mode s => s.apply mask isDir mode) mode

/-- the nine permissions, with what else runs under them -/
def show_ (mode : Nat) : Bytes :=
  let has (n : Nat) : Bool := mode &&& n ≠ 0
  let triple (shift special : Nat) (low high : Char) : List Char :=
    [if has (4 <<< shift) then 'r' else '-', if has (2 <<< shift) then 'w' else '-',
     if has special then (if has (1 <<< shift) then low else high)
     else if has (1 <<< shift) then 'x' else '-']
  (triple 6 0o4000 's' 'S' ++ triple 3 0o2000 's' 'S' ++ triple 0 0o1000 't' 'T').map
    fun c => c.toNat.toUInt8

/-- the letter of a kind of file -/
def kind : Content → UInt8
  | .dir .. => 100
  | .link _ => 108
  | .pipe .. => 112
  | .device _ => 99
  | _ => 45

def shown (n : Node) : Bytes := kind n.content :: show_ n.mode

def octal (n : Nat) : Bytes := Shell.Format.digitsIn 8 n

def octal4 (n : Nat) : Bytes :=
  let ds := octal n
  List.replicate (4 - ds.length) 48 ++ ds

end JarLauncher.Tool.Mode
