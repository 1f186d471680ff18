import JarLauncher.Utf8

/-! Octets as the shell reads them: which end a word, which open a quotation or an expansion, and
which are plain. -/

namespace JarLauncher.Shell

def chr (b : UInt8) : Char := Char.ofUInt8 b

def isBlank (b : UInt8) : Bool := b == 32 || b == 9

def newline : UInt8 := 10

/-- the octets that end a word where they are not quoted -/
def endsWord (b : UInt8) : Bool :=
  isBlank b || b == newline ||
    match chr b with
    | ';' | '&' | '|' | '<' | '>' | '(' | ')' => true
    | _ => false

def isDigit (b : UInt8) : Bool := 48 ≤ b && b ≤ 57

def isNameStart (b : UInt8) : Bool :=
  (97 ≤ b && b ≤ 122) || (65 ≤ b && b ≤ 90) || b == 95

def isNameChar (b : UInt8) : Bool := isNameStart b || isDigit b

def isName (bs : Bytes) : Bool :=
  match bs with
  | [] => false
  | b :: rest => isNameStart b && rest.all isNameChar

/-- the parameters known by one sign -/
def isSpecialParam (b : UInt8) : Bool :=
  match chr b with
  | '@' | '*' | '#' | '?' | '-' | '$' | '!' => true
  | _ => false

/-- text as octets -/
def text (s : String) : Bytes := Utf8.encode s

def decimal (n : Nat) : Bytes := text (toString n)

/-- the value of a string of decimal digits -/
def natOf (bs : Bytes) : Nat := bs.foldl (fun n b => n * 10 + (b.toNat - 48)) 0

def natOf? (bs : Bytes) : Option Nat :=
  if bs ≠ [] ∧ bs.all isDigit then some (natOf bs) else none

end JarLauncher.Shell
