import JarLauncher.Shell.Char

/-! Names in the complaints of tools: as they are if the shell would read them so, or else quoted in
the way that the shell reads back. -/

namespace JarLauncher.Tool.Quoting

open Shell (text chr)

def isPrintable (b : UInt8) : Bool := 32 ≤ b && b ≤ 126

/-- the octets that the shell does not take as they are, and those that it does not at the start -/
def special : List Char := " !\"$&()*;<=>[^`|'\\".toList

def isSpecialFirst (b : UInt8) : Bool := b == 35 || b == 126

def needsQuotes (bs : Bytes) : Bool :=
  bs = [] || bs = [123] || bs = [125] || bs.head?.any isSpecialFirst ||
    bs.any fun b => !isPrintable b || special.contains (chr b)

/-- the octets that stand for themselves between double quotes -/
def isMild (first : Bool) (b : UInt8) : Bool :=
  Shell.isNameChar b || " %+,-./:]'".toList.contains (chr b) || (first && isSpecialFirst b)

/-- an escape after its backslash -/
def escaped (b : UInt8) : Bytes :=
  match b with
  | 7 => [97]
  | 8 => [98]
  | 9 => [116]
  | 10 => [110]
  | 11 => [118]
  | 12 => [102]
  | 13 => [114]
  | _ => [b / 64 + 48, b / 8 % 8 + 48, b % 8 + 48]

/-- quoted octets, in an escaped part or not -/
def inQuotes : Bool → Bytes → Bytes
  | _, [] => []
  | inEscape, b :: rest =>
    if isPrintable b then
      (if inEscape then text "''" else []) ++
        (if b = 39 then text "'\\''" else [b]) ++ inQuotes false rest
    else (if inEscape then [] else text "'$'") ++ 92 :: escaped b ++ inQuotes true rest

/-- in quotes in any case -/
def always (bs : Bytes) : Bytes :=
  let isMildAll : Bool := bs.head?.all (isMild true) && (bs.drop 1).all (isMild false)
  if bs.contains 39 && isMildAll then 34 :: bs ++ [34]
  else 39 :: inQuotes false bs ++ [39]

/-- in quotes if need be -/
def name (bs : Bytes) : Bytes := if needsQuotes bs then always bs else bs

/-- in quotes, with backslashes in front of what quotes do not hold -/
def plain (bs : Bytes) : Bytes :=
  39 :: bs.flatMap (fun b =>
    if b = 39 ∨ b = 92 then [92, b] else if isPrintable b then [b] else 92 :: escaped b) ++ [39]

/-- ways to write names -/
inductive Style where
  | literal
  | shell
  | shellAlways
  | shellEscape
  | shellEscapeAlways
  | c
  | cMaybe
  | escape
  | locale
  | clocale
  deriving DecidableEq

namespace Style

/-- the words that ask for a way, those that mean the same in a row -/
def words : List (String × Style) :=
  [("literal", literal), ("shell", shell), ("shell-always", shellAlways),
   ("shell-escape", shellEscape), ("shell-escape-always", shellEscapeAlways), ("c", c),
   ("c-maybe", cMaybe), ("escape", escape), ("locale", locale), ("clocale", clocale)]

/-- with backslashes in front of what cannot stand alone, and of some octets more -/
def escaping (more : List UInt8) (bs : Bytes) : Bytes :=
  bs.flatMap fun b =>
    if b = 92 ∨ more.contains b then [92, b]
    else if isPrintable b then [b] else 92 :: escaped b

def isSpread (b : UInt8) : Bool := b == 9 || b == 10 || b == 13

/-- quotes as the shell reads them, around octets as they are -/
def enclosed (bs : Bytes) : Bytes :=
  let isMildAll : Bool := bs.head?.all (isMild true) && (bs.drop 1).all (isMild false)
  if bs.contains 39 && isMildAll then 34 :: bs ++ [34]
  else 39 :: bs.flatMap (fun b => if b = 39 then text "'\\''" else [b]) ++ [39]

/-- a name as the shell could misread it -/
def isUnclear (bs : Bytes) : Bool :=
  bs = [] || bs = [123] || bs = [125] || bs.head?.any isSpecialFirst ||
    bs.any fun b => isSpread b || special.contains (chr b)

/-- the way is to quote only if need be -/
def isOptional : Style → Bool
  | shell | shellEscape | cMaybe => true
  | _ => false

/-- a name needs quotes, if they stand around it only then; some octets need them too -/
def needs (s : Style) (more : List UInt8) (bs : Bytes) : Bool :=
  bs.any more.contains || match s with
    | shell => isUnclear bs
    | shellEscape => needsQuotes bs
    | cMaybe => bs.any fun b => !isPrintable b || b == 34
    | _ => false

/-- a name in a way, with backslashes or quotes for some octets more -/
def write (s : Style) (more : List UInt8) (bs : Bytes) : Bytes :=
  match s with
  | literal => bs
  | shell => if s.needs more bs then enclosed bs else bs
  | shellAlways => enclosed bs
  | shellEscape => if s.needs more bs then always bs else bs
  | shellEscapeAlways => always bs
  | c | clocale => 34 :: escaping (34 :: more) bs ++ [34]
  | cMaybe => if s.needs more bs then 34 :: escaping [34] bs ++ [34] else bs
  | escape => escaping more bs
  | locale => plain bs

end Style
end JarLauncher.Tool.Quoting
