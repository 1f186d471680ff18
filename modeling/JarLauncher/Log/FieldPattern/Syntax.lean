/-! The syntax of the patterns that a filter may ask the value of a field to match: regular
expressions with classes of characters, groups and switches, and without counted repetition, which
would end the condition at its brace. -/

namespace JarLauncher.Log.FieldPattern

/-- what a pattern may turn on and off in its course -/
inductive Switch where
  | anyCase
  | lineEdges
  | dotAll
  | shortest
  | characters
  | carriageReturns
  | spaced
  deriving DecidableEq, Repr

def Switch.byLetter : List (Char × Switch) :=
  [('i', anyCase), ('m', lineEdges), ('s', dotAll), ('U', shortest), ('u', characters),
   ('R', carriageReturns), ('x', spaced)]

def Switch.ofLetter? (c : Char) : Option Switch := byLetter.lookup c

structure Switches where
  on : List Switch
  off : List Switch
  deriving DecidableEq, Repr

namespace Switches

def none : Switches := ⟨[], []⟩

/-- the letters of the switches to turn on, then a hyphen and those to turn off; none comes twice -/
def ofText? (text : List Char) : Option Switches := do
  let (on, off) := text.span (· ≠ '-')
  let off ← match off with
    | [] => some []
    | [_] => Option.none
    | _ :: letters => some letters
  let on ← on.mapM Switch.ofLetter?
  let off ← off.mapM Switch.ofLetter?
  if (on ++ off).Nodup then some ⟨on, off⟩ else Option.none

/-- whether a switch is on, where it was `before` -/
def apply (s : Switches) (switch : Switch) (before : Bool) : Bool :=
  s.on.contains switch || (before && !s.off.contains switch)

end Switches

/-- a character that stands for itself -/
structure Literal where
  char : Char
  /-- it is written as an octet, by two digits -/
  isOctet : Bool
  deriving DecidableEq, Repr

def Literal.ofChar (c : Char) : Literal := ⟨c, false⟩

inductive ClassOp where
  | intersection
  | difference
  | symmetricDifference
  deriving DecidableEq, Repr

/-- a set of characters -/
inductive Class where
  | literal (l : Literal)
  | range (low high : Literal)
  /-- a class of ASCII by its name, such as `[:alpha:]`, or all other characters -/
  | ascii (negated : Bool)
  /-- digits, blanks or word characters by a letter, such as `\d`, or all other characters -/
  | shorthand (negated : Bool)
  /-- several sets, or none, side by side -/
  | union (parts : List Class)
  | bracket (negated : Bool) (inner : Class)
  | combined (op : ClassOp) (left right : Class)

def Class.ofParts : List Class → Class
  | [c] => c
  | cs => .union cs

inductive Node where
  | literal (l : Literal)
  | dot
  /-- the edge of a line or of the text -/
  | edge
  /-- the edge of a word, or a place that is none -/
  | wordEdge
  | shorthand (negated : Bool)
  | charClass (c : Class)
  /-- switches for what follows in the group -/
  | switched (s : Switches)
  | repeated (n : Node)
  /-- a group with switches of its own -/
  | group (s : Switches) (n : Node)
  /-- several nodes, or none, one after the other -/
  | sequence (nodes : List Node)
  /-- two nodes or more of which one matches -/
  | alternation (branches : List Node)

namespace Node

def ofSequence : List Node → Node
  | [n] => n
  | ns => .sequence ns

def ofBranches : List Node → Node
  | [n] => n
  | ns => .alternation ns

/-- whether a repetition has something to repeat in it -/
def isRepeatable : Node → Bool
  | switched _ => false
  | _ => true

/-- it as a part of a class of characters -/
def toClass? : Node → Option Class
  | literal l => some (.literal l)
  | shorthand negated => some (.shorthand negated)
  | _ => none

def toLiteral? : Node → Option Literal
  | literal l => some l
  | _ => none

end Node

/-! ### How deep a pattern is nested -/

mutual

def Class.depth : Class → Nat
  | .union [] => 0
  | .union parts => Class.depthAll parts + 1
  | .bracket _ inner => inner.depth + 1
  | .combined _ left right => max left.depth right.depth + 1
  | _ => 0

def Class.depthAll : List Class → Nat
  | [] => 0
  | c :: cs => max c.depth (Class.depthAll cs)

end

mutual

def Node.depth : Node → Nat
  | .charClass c => c.depth
  | .repeated n => n.depth + 1
  | .group _ n => n.depth + 1
  | .sequence [] => 0
  | .sequence nodes => Node.depthAll nodes + 1
  | .alternation branches => Node.depthAll branches + 1
  | _ => 0

def Node.depthAll : List Node → Nat
  | [] => 0
  | n :: ns => max n.depth (Node.depthAll ns)

end

end JarLauncher.Log.FieldPattern
