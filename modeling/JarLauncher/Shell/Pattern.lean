import JarLauncher.Shell.Char

/-! Patterns: octets that match texts. `*` stands for any octets, `?` for one, `[…]` for one of a
set, and an octet after a backslash for itself. -/

namespace JarLauncher.Shell

abbrev Pattern := Bytes

namespace Pattern

/-- the order of octets in the ranges of sets: those above 127 come first -/
def rank (b : UInt8) : Nat := (b.toNat + 128) % 256

def classes : List (String × (UInt8 → Bool)) :=
  let lower (b : UInt8) : Bool := 97 ≤ b && b ≤ 122
  let upper (b : UInt8) : Bool := 65 ≤ b && b ≤ 90
  let alnum (b : UInt8) : Bool := lower b || upper b || isDigit b
  let graph (b : UInt8) : Bool := 33 ≤ b && b ≤ 126
  [("alnum", alnum),
   ("cntrl", fun b => b < 32 || b == 127),
   ("lower", lower),
   ("space", fun b => b == 32 || (9 ≤ b && b ≤ 13)),
   ("alpha", fun b => lower b || upper b),
   ("digit", isDigit),
   ("print", fun b => graph b || b == 32),
   ("upper", upper),
   ("blank", isBlank),
   ("graph", graph),
   ("punct", fun b => graph b && !alnum b),
   ("xdigit", fun b => isDigit b || (97 ≤ b && b ≤ 102) || (65 ≤ b && b ≤ 70))]

/-- a class `[:name:]` whose first bracket was taken: whether it holds `b`, and what follows it -/
def class? (p : Pattern) (b : UInt8) : Option (Bool × Pattern) :=
  classes.findSome? fun (name, holds) =>
    let spelling := text (":" ++ name ++ ":]")
    if spelling.isPrefixOf p then some (holds b, p.drop spelling.length) else none

/-- The rest of a set, of which the member `c` was taken: whether it holds `b`, and the pattern
after it; none if the set has no end. -/
def members (b : UInt8) : Nat → Bool → UInt8 → Pattern → Option (Bool × Pattern)
  | 0, _, _, _ => none
  | fuel + 1, held, c, p =>
    let next (held : Bool) (p : Pattern) : Option (Bool × Pattern) :=
      match p with
      | [] => none
      | 93 :: rest => some (held, rest)
      | c :: rest => members b fuel held c rest
    match if c = 91 then class? p b else none with
    | some (holds, rest) => next (held || holds) rest
    | none =>
      match if c = 92 then p else c :: p with
      | [] => none
      | low :: rest =>
        match rest with
        | 45 :: high :: more =>
          if high = 93 then next (held || b = low) rest
          else match if high = 92 then more else high :: more with
            | [] => none
            | high :: more =>
              next (held || (rank low ≤ rank b && rank b ≤ rank high)) more
        | [45] => none
        | _ => next (held || b = low) rest

/-- a set after its opening bracket -/
def set? (b : UInt8) (p : Pattern) : Option (Bool × Pattern) :=
  let (inverted, p) := match p with
    | 33 :: rest => (true, rest)
    | _ => (false, p)
  match p with
  | [] => none
  | c :: rest => (members b p.length false c rest).map fun (held, rest) => (held != inverted, rest)

def matchesFrom : Nat → Pattern → Bytes → Bool
  | 0, _, _ => false
  | fuel + 1, p, bs =>
    match p with
    | [] => bs.isEmpty
    | 42 :: rest =>
      let rest := rest.dropWhile (· = 42)
      rest.isEmpty ||
        (List.range (bs.length + 1)).any fun n => matchesFrom fuel rest (bs.drop n)
    | c :: rest =>
      match bs with
      | [] => false
      | b :: more =>
        if c = 63 then matchesFrom fuel rest more
        else
          let (c, after) := match c, rest with
            | 92, d :: after => (d, after)
            | _, _ => (c, rest)
          match if p.head? = some 91 then set? b rest else none with
          | some (held, after) => held && matchesFrom fuel after more
          | none => c = b && matchesFrom fuel after more

def accepts (p : Pattern) (bs : Bytes) : Bool := matchesFrom (p.length + 1) p bs

/-- an octet that a pattern may have a use for -/
def isSign (b : UInt8) : Bool := b == 42 || b == 63 || b == 91

end Pattern
end JarLauncher.Shell
