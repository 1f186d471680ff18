import JarLauncher.Digest.Blake
import JarLauncher.Digest.Md5
import JarLauncher.Digest.Sm3
import JarLauncher.Digest.Sum
import JarLauncher.Shell.Arithmetic
import JarLauncher.Text.Radix
import JarLauncher.Tool.Option

/-! Tools that show the digests of files, or compare them with digests that a list says. -/

namespace JarLauncher.Tool

open Unix
open Shell (text newline decimal chr)
open Text (Radix)

namespace Checksum

inductive Algorithm where
  | bsd | sysv | crc | md5 | sha1 | sha224 | sha256 | sha384 | sha512 | blake2b | sm3
  deriving DecidableEq

namespace Algorithm

def all : List Algorithm :=
  [.bsd, .sysv, .crc, .md5, .sha1, .sha224, .sha256, .sha384, .sha512, .blake2b,
   .sm3]

/-- the word that lines with a digest begin with -/
def tag : Algorithm → String
  | bsd => "BSD"
  | sysv => "SYSV"
  | crc => "CRC"
  | md5 => "MD5"
  | sha1 => "SHA1"
  | sha224 => "SHA224"
  | sha256 => "SHA256"
  | sha384 => "SHA384"
  | sha512 => "SHA512"
  | blake2b => "BLAKE2b"
  | sm3 => "SM3"

def word (a : Algorithm) : String := a.tag.map Char.toLower

/-- only a sum, which no list is compared with -/
def isSum : Algorithm → Bool
  | bsd | sysv | crc => true
  | _ => false

/-- how many octets a digest has, or may have -/
def size : Algorithm → Nat
  | bsd | sysv => 2
  | crc => 4
  | md5 => 16
  | sha1 => 20
  | sha224 => 28
  | sha256 | sm3 => 32
  | sha384 => 48
  | sha512 | blake2b => 64

/-- the digest of a message, with so many octets if it may have fewer -/
def digest (a : Algorithm) (size : Nat) (message : ByteArray) : Bytes :=
  match a with
  | bsd => Digest.Order.highFirst.octets 2 (Digest.Sum.turning message)
  | sysv => Digest.Order.highFirst.octets 2 (Digest.Sum.plain message)
  | crc => Digest.Order.highFirst.octets 4 (Digest.Sum.cyclic message)
  | md5 => Digest.Md5.digest message
  | sha1 => Digest.Sha1.digest message
  | sha224 => Digest.Sha2.digest224 message
  | sha256 => Digest.Sha2.digest256 message
  | sha384 => Digest.Sha2.digest384 message
  | sha512 => Digest.Sha2.digest512 message
  | blake2b => Digest.Blake.digest size message
  | sm3 => Digest.Sm3.digest message

end Algorithm

/-- how much is said while a list is compared -/
inductive Talk where
  | usual | quiet | silent | warning
  deriving DecidableEq

structure Choice where
  algorithm : Algorithm
  /-- the algorithm was asked for -/
  isAsked : Bool := false
  /-- the tool has all algorithms -/
  hasAll : Bool := false
  /-- the octets that were asked for -/
  size : Nat := 0
  tagged : Option Bool := none
  binary : Option Bool := none
  compares : Bool := false
  ignoresMissing : Bool := false
  strict : Bool := false
  talk : Talk := .usual
  nulEnded : Bool := false
  inBase64 : Bool := false
  raw : Bool := false

def Choice.octets (c : Choice) : Nat := if c.size = 0 then c.algorithm.size else c.size

/-- how a digest is written -/
def Choice.written (c : Choice) (digest : Bytes) : Bytes :=
  if c.inBase64 then Radix.base64.encode digest else Radix.hexLow.encode digest

/-- the octets of names that do not stand in lines as they are, and what stands for them -/
def escapes : List (UInt8 × UInt8) := [(92, 92), (newline, 110), (13, 114)]

def isTroubling (name : Bytes) : Bool := name.any fun b => (escapes.lookup b).isSome

def escaped (name : Bytes) : Bytes := name.flatMap fun b =>
  match escapes.lookup b with
  | some letter => [92, letter]
  | none => [b]

/-- the name that an escaped one stands for, if it is one -/
def unescaped? : Bytes → Option Bytes
  | [] => some []
  | 92 :: letter :: rest => do
    let (b, _) ← escapes.find? fun (_, l) => l = letter
    return b :: (← unescaped? rest)
  | 92 :: [] => none
  | b :: rest => do return b :: (← unescaped? rest)

/-- the data of an operand, or why it cannot be had -/
def dataOf (x : Bytes) : Work (FileTree.Answer ByteArray) := do
  match ← Work.openOperand x with
  | .error e => return .error e
  | .ok fd =>
    let data ← Work.readAll fd
    Work.closeOperand x fd
    return data

/-- the line for a sum, with a name if there are operands -/
def sumLine (a : Algorithm) (data : ByteArray) (named : Option Bytes) : Bytes :=
  let name := match named with
    | some name => 32 :: name
    | none => []
  match a with
  | .bsd =>
    let fill (width : Nat) (sign : UInt8) (bs : Bytes) : Bytes :=
      List.replicate (width - bs.length) sign ++ bs
    fill 5 48 (decimal (Digest.Sum.turning data)) ++ 32 ::
      fill 5 32 (decimal ((data.size + 1023) / 1024)) ++ name
  | .sysv =>
    decimal (Digest.Sum.plain data) ++ 32 :: decimal ((data.size + 511) / 512) ++ name
  | _ => decimal (Digest.Sum.cyclic data) ++ 32 :: decimal data.size ++ name

/-- the line for a digest -/
def line (c : Choice) (name digest : Bytes) : Bytes :=
  let troubles := !c.nulEnded && isTroubling name
  let shown := if troubles then escaped name else name
  let written := c.written digest
  (if troubles then [92] else []) ++
    if c.tagged.getD false then
      let length := if c.algorithm = .blake2b && c.octets < 64
        then 45 :: decimal (8 * c.octets) else []
      text c.algorithm.tag ++ length ++ text " (" ++ shown ++ text ") = " ++ written
    else written ++ 32 :: (if c.binary = some true then 42 else 32) :: shown

def show_ (c : Choice) (operands : List Bytes) : Work Unit := do
  for x in Work.orInput operands do
    match ← dataOf x with
    | .error e => Work.warn [Quoting.name x, text ": ", reason e]
    | .ok data =>
      let digest := c.algorithm.digest c.octets data
      if c.raw then Work.put digest
      else
        let shown := if c.algorithm.isSum
          then sumLine c.algorithm data (if operands.isEmpty then none else some x)
          else line c x digest
        Work.put (shown ++ [if c.nulEnded then 0 else newline])

/-- what a line of a list says: a name and its digest as it is written there -/
structure Claim where
  algorithm : Algorithm
  /-- how many octets the digest has -/
  size : Nat
  written : Bytes
  name : Bytes

def isBlank (b : UInt8) : Bool := b == 32 || b == 9

def isHex (b : UInt8) : Bool := (Shell.Arithmetic.digit? 16 b).isSome

/-- how many octets a digest has as it is written -/
def sizeOf? (a : Algorithm) (limit : Nat) (written : Bytes) : Option Nat :=
  if a = .blake2b ∧ written.all isHex ∧ written.length % 2 = 0 ∧ 2 ≤ written.length ∧
      written.length ≤ 128 then some (written.length / 2)
  else if written.length = 2 * limit ∧ written.all isHex then some limit
  else if written.length = 4 * ((limit + 2) / 3) ∧ (Radix.base64.decode written).2 then some limit
  else none

/-- the rest of a line that begins with a tag -/
def tagged? (a : Algorithm) (isEscaped : Bool) (bs : Bytes) : Option Claim := do
  let (limit, bs) ← match a, bs with
    | .blake2b, 45 :: rest =>
      let (digits, rest) := rest.span Shell.isDigit
      pure ((← Shell.natOf? digits) / 8, rest)
    | _, _ => pure (a.size, bs)
  let bs := if bs.head? = some 32 then bs.drop 1 else bs
  let bs ← match bs with
    | 40 :: bs => some bs
    | _ => none
  let back := bs.reverse.dropWhile (· ≠ 41)
  let name := (back.drop 1).reverse
  let rest := (bs.drop back.length).dropWhile isBlank
  let written ← match rest with
    | 61 :: rest => some (rest.dropWhile isBlank)
    | _ => none
  if back.isEmpty then none
  let size ← sizeOf? a limit written
  return ⟨a, size, written, ← if isEscaped then unescaped? name else some name⟩

/-- what a line says; a tool with all algorithms takes any that the line names -/
def claim? (c : Choice) (bs : Bytes) : Option Claim := do
  let bs := bs.dropWhile isBlank
  let (isEscaped, bs) := match bs with
    | 92 :: rest => (true, rest)
    | _ => (false, bs)
  let candidates := if c.hasAll && !c.isAsked then Algorithm.all.filter fun a => !a.isSum
    else [c.algorithm]
  let word := bs.takeWhile fun b => b ≠ 32 && b ≠ 45 && b ≠ 40
  match candidates.find? fun a => text a.tag = word with
  | some a => tagged? a isEscaped (bs.drop word.length)
  | none =>
    if c.algorithm.isSum then none
    let (written, rest) := bs.span fun b => !isBlank b
    let size ← sizeOf? c.algorithm c.octets written
    let name ← match rest with
      | _ :: 32 :: name | _ :: 42 :: name => some name
      | _ :: name => some name
      | [] => none
    if name = [] then none
    return ⟨c.algorithm, size, written, ← if isEscaped then unescaped? name else some name⟩

/-- what came of the lines of a list -/
structure Tally where
  misformed : Nat := 0
  unread : Nat := 0
  different : Nat := 0
  formed : Bool := false
  matched : Bool := false

def lower (b : UInt8) : UInt8 := if 65 ≤ b && b ≤ 90 then b + 32 else b

def Claim.isMet (k : Claim) (data : ByteArray) : Bool :=
  let digest := k.algorithm.digest k.size data
  k.written.map lower = Radix.hexLow.encode digest || k.written = Radix.base64.encode digest

def nameLine (name : Bytes) (said : String) : Work Unit :=
  Work.putLine ((if isTroubling name then 92 :: escaped name else name) ++ text said)

/-- compare what a line says with the file -/
def compareLine (c : Choice) (t : Tally) (k : Claim) : Work Tally := do
  let t := { t with formed := true }
  let speaks := c.talk ≠ .silent
  match ← dataOf k.name with
  | .error e =>
    if c.ignoresMissing ∧ e = Errno.noEntry then return t
    Work.complain [Quoting.name k.name, text ": ", reason e]
    if speaks then nameLine k.name ": FAILED open or read"
    return { t with unread := t.unread + 1 }
  | .ok data =>
    if k.isMet data then
      if speaks && c.talk ≠ .quiet then nameLine k.name ": OK"
      return { t with matched := true }
    else
      if speaks then nameLine k.name ": FAILED"
      return { t with different := t.different + 1 }

def compareLines (c : Choice) (shown : Bytes) (isInput : Bool) :
    Nat → Tally → List Bytes → Work Tally
  | _, t, [] => return t
  | n, t, bs :: rest => do
    let bs := if bs.getLast? = some 13 then bs.dropLast else bs
    if bs = [] ∨ bs.head? = some 35 then compareLines c shown isInput (n + 1) t rest
    else
      let t ← match (claim? c bs).filter fun k => !(isInput && k.name = Work.dash) with
        | some k => compareLine c t k
        | none => do
          if c.talk = .warning then
            Work.complain [shown, text ": ", decimal n, text ": improperly formatted ",
              text c.algorithm.tag, text " checksum line"]
          pure { t with misformed := t.misformed + 1 }
      compareLines c shown isInput (n + 1) t rest

/-- a warning about so many things of a kind -/
def countWarning (count : Nat) (one several : String) : Work Unit := do
  if count ≠ 0 then
    Work.complain [text "WARNING: ", decimal count, text (if count = 1 then one else several)]

/-- compare a list with the files that it names -/
def compareList (c : Choice) (x : Bytes) : Work Unit := do
  let isInput : Bool := x = Work.dash
  let shown := Quoting.name (if isInput then text "standard input" else x)
  match ← Work.openOperand x with
  | .error e => Work.warn [shown, text ": ", reason e]
  | .ok fd =>
    match ← Work.readAll fd with
    | .error _ => Work.warn [shown, text ": read error"]
    | .ok data =>
      let lines := Path.splitOn newline data.toList
      let t ← compareLines c shown isInput 1 {} lines
      if !t.formed then Work.complain [shown, text ": no properly formatted checksum lines found"]
      else if c.talk ≠ .silent then
        countWarning t.misformed " line is improperly formatted" " lines are improperly formatted"
        countWarning t.unread " listed file could not be read" " listed files could not be read"
        countWarning t.different " computed checksum did NOT match"
          " computed checksums did NOT match"
        if c.ignoresMissing && !t.matched then
          Work.complain [shown, text ": no file was verified"]
      let isFine : Bool := t.formed && (!c.ignoresMissing || t.matched) && t.different = 0 &&
        t.unread = 0 && (!c.strict || t.misformed = 0)
      if !isFine then Work.failed
    Work.closeOperand x fd

def lengthOption (value : Bytes) : Work Nat := do
  let invalid : Work Unit := Work.complain [text "invalid length: ", Quoting.always value]
  match Shell.natOf? value with
  | none => Work.fail [text "invalid length: ", Quoting.always value]
  | some n =>
    if 512 < n then
      invalid
      Work.fail [text "maximum digest length for 'BLAKE2b' is 512 bits"]
    if n % 8 ≠ 0 then
      invalid
      Work.fail [text "length is not a multiple of 8"]
    return n / 8

def algorithmOption (value : Bytes) : Work Algorithm := do
  let words := Algorithm.all.map fun a => text a.word
  let found := Algorithm.all.find? fun a => text a.word = value
  let begun := Algorithm.all.filter fun a => value.isPrefixOf (text a.word)
  match found, begun with
  | some a, _ | none, [a] => return a
  | none, begun =>
    let kind := if begun.isEmpty then "invalid" else "ambiguous"
    let said := [text kind, text " argument ", Quoting.always value, text " for '--algorithm'"]
    let listed := words.map fun w => text "\n  - '" ++ w ++ text "'"
    Work.misuse (said ++ text "\nValid arguments are:" :: listed)

def take (c : Choice) (g : Given) : Work Choice := do
  match g.letter with
  | 'a' => return { c with algorithm := ← algorithmOption (g.value.getD []), isAsked := true }
  | 'l' => return { c with size := ← lengthOption (g.value.getD []) }
  | 'b' => return { c with binary := some true }
  | 't' => return { c with binary := some false }
  | 'c' => return { c with compares := true }
  | 'w' => return { c with talk := .warning }
  | 'q' => return { c with talk := .quiet }
  | 's' => return { c with talk := .silent }
  | 'S' => return { c with strict := true }
  | 'm' => return { c with ignoresMissing := true }
  | 'T' => return { c with tagged := some true, binary := some true }
  | 'U' =>
    let binary := if c.tagged = some true then none else c.binary
    return { c with tagged := some false, binary := binary }
  | 'z' => return { c with nulEnded := true }
  | 'B' => return { c with inBase64 := true }
  | 'R' => return { c with raw := true }
  | _ => return c

def words : List LongName :=
  [flag "binary" 'b', flag "check" 'c', flag "ignore-missing" 'm', flag "quiet" 'q',
   flag "status" 's', flag "strict" 'S', flag "tag" 'T', flag "text" 't', flag "warn" 'w',
   flag "zero" 'z']

/-- refuse options that do not go together -/
def check (c : Choice) : Work Unit := do
  if c.compares && c.isAsked && c.algorithm.isSum then
    Work.fail [text "--check is not supported with --algorithm=\x7bbsd,sysv,crc\x7d"]
  if c.size ≠ 0 ∧ c.algorithm ≠ .blake2b then
    Work.fail [text "--length is only supported with --algorithm=blake2b"]
  if c.inBase64 && c.raw then
    Work.misuse [text "--base64 and --raw are mutually exclusive"]
  if c.tagged.getD c.hasAll && c.binary = some false then
    Work.misuse [text (if c.hasAll then "--text mode is only supported with --untagged"
      else "--tag does not support --text mode")]
  let only (given : Bool) (option : String) : Work Unit := do
    if given && !c.compares then
      Work.misuse [text ("the --" ++ option ++
        " option is meaningful only when verifying checksums")]
  if c.compares then
    if c.nulEnded then
      Work.misuse [text "the --zero option is not supported when verifying checksums"]
    if c.tagged = some true && !c.hasAll then
      Work.misuse [text "the --tag option is meaningless when verifying checksums"]
    if c.binary.isSome then
      Work.misuse [text "the --binary and --text options are meaningless when verifying checksums"]
  only c.ignoresMissing "ignore-missing"
  only (c.talk = .silent) "status"
  only (c.talk = .warning) "warn"
  only (c.talk = .quiet) "quiet"
  only c.strict "strict"

end Checksum

def checksumWith (menu : Menu) (start : Checksum.Choice) : Routine := fun args => do
  let (c, operands) ← Work.options menu args start Checksum.take
  Checksum.check c
  if c.raw && 1 < operands.length then
    Work.fail [text "the --raw option is not supported with multiple files"]
  let c := { c with tagged := some (c.tagged.getD c.hasAll) }
  if c.compares then (Work.orInput operands).forM (Checksum.compareList c)
  else Checksum.show_ c operands
  Work.closeInput operands "standard input"

/-- the tool for one algorithm -/
def checksumBy (a : Checksum.Algorithm) : Routine :=
  checksumWith { letters := "bctwz", words := Checksum.words } { algorithm := a }

def b2sum : Routine :=
  checksumWith { letters := "l:bctwz", words := valued "length" 'l' :: Checksum.words }
    { algorithm := .blake2b }

def cksum : Routine :=
  checksumWith { letters := "a:l:bctwz", words := [valued "algorithm" 'a', valued "length" 'l',
    flag "base64" 'B', flag "raw" 'R', flag "untagged" 'U', flag "debug" 'D'] ++ Checksum.words }
    { algorithm := .crc, hasAll := true }

def sum : Routine := fun args => do
  let menu : Menu := { letters := "rs", words := [flag "sysv" 's'] }
  let (on, operands) ← Work.flags menu args
  let algorithm := if on.getLast? = some 's' then .sysv else .bsd
  Checksum.show_ { algorithm := algorithm } operands
  Work.closeInput operands "standard input"

end JarLauncher.Tool
