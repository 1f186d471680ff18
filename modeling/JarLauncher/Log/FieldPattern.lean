import JarLauncher.Log.FieldPattern.Reader

/-! The values that a filter may ask a field to have: numbers, and patterns. Patterns are matched
without tables of Unicode: over characters there are no shorthands, no edges of words and no case to
ignore. Over octets there are, but then a pattern must not match what is no text. -/

namespace JarLauncher.Log.FieldPattern

/-- what the switches say of the place that is being read -/
structure Mode where
  anyCase : Bool
  characters : Bool
  deriving DecidableEq, Repr

namespace Mode

def start : Mode := ⟨false, true⟩

def switch (m : Mode) (s : Switches) : Mode :=
  ⟨s.apply .anyCase m.anyCase, s.apply .characters m.characters⟩

end Mode

namespace Literal

/-- an octet that is not all of a character, where octets are matched -/
def isTorn (l : Literal) : Bool := l.isOctet && 0x80 ≤ l.char.toNat

end Literal

namespace ClassOp

def apply (op : ClassOp) (left right : Bool) : Bool :=
  match op with
  | intersection => left && right
  | difference => left && !right
  | symmetricDifference => left ^^ right

end ClassOp

/-! ### Classes over octets

The octets beyond ASCII are in a class together or not at all. -/

mutual

/-- whether a class has the octets beyond ASCII, if it is one of octets and its brackets have none
of these -/
def Class.beyondAscii? : Class → Option Bool
  | .literal l => if l.char.toNat < 0x80 then some false else none
  | .range low high => if low.char.toNat < 0x80 ∧ high.char.toNat < 0x80 then some false else none
  | .ascii negated => some negated
  | .shorthand negated => if negated then none else some false
  | .union parts => Class.beyondAsciiAny? parts
  | .bracket negated inner =>
    match inner.beyondAscii? with
    | some beyond => if beyond ^^ negated then none else some false
    | none => none
  | .combined op left right =>
    match left.beyondAscii?, right.beyondAscii? with
    | some l, some r => some (op.apply l r)
    | _, _ => none

def Class.beyondAsciiAny? : List Class → Option Bool
  | [] => some false
  | c :: cs =>
    match c.beyondAscii?, Class.beyondAsciiAny? cs with
    | some l, some r => some (l || r)
    | _, _ => none

end

/-! ### Classes over characters -/

mutual

/-- whether all parts that name characters are of a kind -/
def Class.allMembers (p : Class → Bool) : Class → Bool
  | .union parts => Class.allMembersAll p parts
  | .bracket _ inner => inner.allMembers p
  | .combined _ left right => left.allMembers p && right.allMembers p
  | c => p c

def Class.allMembersAll (p : Class → Bool) : List Class → Bool
  | [] => true
  | c :: cs => c.allMembers p && Class.allMembersAll p cs

end

namespace Class

def isShorthand : Class → Bool
  | shorthand _ => true
  | _ => false

/-- whether it can be matched; to ignore the case of any member takes a table -/
def isMatchable (m : Mode) (c : Class) : Bool :=
  if m.characters then c.allMembers fun member => !m.anyCase && !member.isShorthand
  else c.beyondAscii? = some false

end Class

/-! ### Patterns -/

mutual

/-- the mode past a node, if the node can be matched -/
def Node.modeAfter? (m : Mode) : Node → Option Mode
  | .literal l => if (if m.characters then m.anyCase else l.isTorn) then none else some m
  | .dot => if m.characters then some m else none
  | .edge => some m
  | .wordEdge => if m.characters then none else some m
  | .shorthand negated => if m.characters || negated then none else some m
  | .charClass c => if c.isMatchable m then some m else none
  | .switched s => some (m.switch s)
  | .repeated n => n.modeAfter? m
  | .group s n => (n.modeAfter? (m.switch s)).map fun _ => m
  | .sequence nodes => Node.modeAfterAll? m nodes
  | .alternation branches => Node.modeAfterAll? m branches

def Node.modeAfterAll? (m : Mode) : List Node → Option Mode
  | [] => some m
  | n :: ns => do Node.modeAfterAll? (← n.modeAfter? m) ns

end

/-- how deep a pattern may be nested -/
def maxDepth : Nat := 250

def isPattern (cs : List Char) : Bool :=
  match read? cs with
  | some n => n.depth ≤ maxDepth && (n.modeAfter? .start).isSome
  | none => false

/-- a decimal number, or one of the names of the numbers that have no digits -/
def isNumber (cs : List Char) : Bool :=
  let cs := if cs.head? = some '+' ∨ cs.head? = some '-' then cs.drop 1 else cs
  if ["inf", "infinity", "nan"].contains (String.ofList (cs.map Char.toLower)) then true
  else
    let (whole, rest) := cs.span Char.isDigit
    let (fraction, rest) := match rest with
      | '.' :: more => more.span Char.isDigit
      | _ => ([], rest)
    (whole ≠ [] || fraction ≠ []) &&
      match rest with
      | [] => true
      | e :: exponent =>
        let exponent := match exponent with
          | '+' :: more | '-' :: more => more
          | _ => exponent
        e.toLower = 'e' && exponent ≠ [] && exponent.all Char.isDigit

/-- whether a filter may ask for this value -/
def isValue (cs : List Char) : Bool := isNumber cs || isPattern cs

end JarLauncher.Log.FieldPattern
