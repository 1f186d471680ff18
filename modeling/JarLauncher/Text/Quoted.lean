import JarLauncher.Utf8
import JarLauncher.Text.Hidden

/-! The quoted form of an octet string, for the log. Text stands for itself between double quotes;
quotes, backslashes and hidden characters are escaped, and so is each octet outside of valid
UTF-8. -/

namespace JarLauncher.Text.Quoted

/-- the control characters, hidden under every choice of hidden characters -/
def isControl (c : Char) : Bool := c.toNat < 0x20 || (0x7F ≤ c.toNat && c.toNat ≤ 0x9F)

/-- the two digits of `b` in base 16, upper case -/
def octetDigits (b : UInt8) : List Char :=
  [Nat.digitChar (b.toNat / 16), Nat.digitChar (b.toNat % 16)].map Char.toUpper

/-- the value of a digit in base 16, in either case -/
def hexValue? (c : Char) : Option Nat :=
  "0123456789abcdef".toList.findIdx? (· = c.toLower)

def escapeChar (invisible : Char → Bool) (c : Char) : List Char :=
  if c = '"' then ['\\', '"']
  else if c = '\\' then ['\\', '\\']
  else if c = '\t' then ['\\', 't']
  else if c = '\n' then ['\\', 'n']
  else if c = '\r' then ['\\', 'r']
  else if c = '\x00' then ['\\', '0']
  else if isControl c || invisible c then
    '\\' :: 'u' :: '\x7b' :: Nat.toDigits 16 c.toNat ++ ['\x7d']
  else [c]

def escapeSegment (invisible : Char → Bool) : Utf8.Segment → List Char
  | .scalar c => escapeChar invisible c
  | .broken octets => octets.flatMap fun b => '\\' :: 'x' :: octetDigits b

def quoteHiding (invisible : Char → Bool) (bs : Bytes) : String :=
  String.ofList ('"' :: (Utf8.segments bs).flatMap (escapeSegment invisible) ++ ['"'])

def quote (bs : Bytes) : String := quoteHiding isHidden bs

end JarLauncher.Text.Quoted
