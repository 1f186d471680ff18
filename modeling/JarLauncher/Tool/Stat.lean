import JarLauncher.Tool.Listing.List

/-! The tool that tells what is known of a file, by a pattern. -/

namespace JarLauncher.Tool

open Unix
open Shell (text newline decimal chr)

namespace Stat

/-- what a letter of a pattern stands for -/
inductive Part where
  | number (n : Nat)
  | octal (n : Nat)
  | hexadecimal (n : Nat)
  | word (bs : Bytes)
  /-- seconds, and billionths of them if they are asked for -/
  | time (m : Calendar.Moment)

/-- what stands between a percent sign and its letter -/
structure Manner where
  flags : List Char
  width : Nat
  precision : Option Nat

/-- something as wide as is asked for -/
def Manner.fit (w : Manner) (zeros : Bool) (sign body : Bytes) : Bytes :=
  let missing := w.width - (sign.length + body.length)
  if w.flags.contains '-' then sign ++ body ++ List.replicate missing 32
  else if zeros then sign ++ List.replicate missing 48 ++ body
  else List.replicate missing 32 ++ sign ++ body

/-- at least as many digits as the precision asks for -/
def Manner.digits (w : Manner) (ds : Bytes) : Bytes :=
  List.replicate (w.precision.getD 1 - ds.length) 48 ++ ds

def Part.shown (w : Manner) : Part → Bytes
  | .number n =>
    w.fit (w.flags.contains '0' && w.precision.isNone) [] (w.digits (decimal n))
  | .octal n =>
    let ds := Mode.octal n
    let ds := if w.flags.contains '#' && n ≠ 0 then 48 :: ds else ds
    w.fit (w.flags.contains '0' && w.precision.isNone) [] (w.digits ds)
  | .hexadecimal n =>
    let sign := if w.flags.contains '#' && n ≠ 0 then text "0x" else []
    w.fit (w.flags.contains '0' && w.precision.isNone) sign
      (w.digits (Shell.Format.digitsIn 16 n))
  | .word bs => w.fit false [] (match w.precision with
    | some p => bs.take p
    | none => bs)
  | .time m =>
    let seconds := m.shown (text "%s")
    w.fit (w.flags.contains '0') [] (match w.precision with
      | some (p + 1) =>
        let fraction := (m.shown (text "%N")).take (p + 1)
        seconds ++ 46 :: fraction ++ List.replicate (p + 1 - 9) 48
      | _ => seconds)

/-- what is known of a file -/
structure Facts where
  /-- the name that it was asked for by -/
  name : Bytes
  id : FileTree.Id
  node : Node
  links : Nat
  moment : Calendar.Moment

def kind (c : Content) : String :=
  match c with
  | .dir .. => "directory"
  | .file data => if data.isEmpty then "regular empty file" else "regular file"
  | .link _ => "symbolic link"
  | .pipe .. => "fifo"
  | .device _ => "character special file"
  | .program _ | .descriptor _ => "regular file"

/-- the bits above the permissions that tell the kinds of files apart -/
def kindBits (c : Content) : Nat :=
  match c with
  | .dir .. => 0o040000
  | .link _ => 0o120000
  | .pipe .. => 0o010000
  | .device _ => 0o020000
  | _ => 0o100000

/-- the numbers of a device -/
def deviceNumbers (c : Content) : Nat × Nat :=
  match c with
  | .device d => d.numbers
  | _ => (0, 0)

def blockSize : Nat := 4096

/-- how many half thousands of octets a file takes up -/
def blocks (c : Content) : Nat :=
  match c with
  | .dir .. => 8
  | .file data => (data.size + blockSize - 1) / blockSize * 8
  | _ => 0

/-- what a letter stands for, in a pattern of one's own or in the usual one -/
def part? (f : Facts) (own : Bool) (c : Char) : Option Part :=
  let content := f.node.content
  let device := deviceNumbers content
  match c with
  | 'a' => some (.octal f.node.mode)
  | 'A' => some (.word (Mode.shown f.node))
  | 'b' => some (.number (blocks content))
  | 'B' => some (.number 512)
  | 'd' => some (.number 1)
  | 'D' => some (.hexadecimal 1)
  | 'f' => some (.hexadecimal (kindBits content + f.node.mode))
  | 'F' => some (.word (text (kind content)))
  | 'g' | 'u' => some (.number 0)
  | 'G' | 'U' => some (.word (text "root"))
  | 'h' => some (.number f.links)
  | 'i' => some (.number f.id)
  | 'm' => some (.word [Path.slash])
  | 'n' => some (.word f.name)
  | 'N' =>
    let quoted (bs : Bytes) : Bytes := if own then Quoting.always bs else bs
    some (.word (match content with
      | .link target => quoted f.name ++ text " -> " ++ quoted target
      | _ => quoted f.name))
  | 'o' => some (.number blockSize)
  | 'r' => some (.number (device.1 * 256 + device.2))
  | 'R' => some (.hexadecimal (device.1 * 256 + device.2))
  | 's' => some (.number (Listing.sizeOf content))
  | 't' => some (.hexadecimal device.1)
  | 'T' => some (.hexadecimal device.2)
  | 'w' | 'x' | 'y' | 'z' => some (.word (f.moment.shown Listing.fullTime))
  | 'W' | 'X' | 'Y' | 'Z' => some (.time f.moment)
  | _ => none

/-- a half of a number of a device -/
def half? (f : Facts) (which c : Char) : Option Part :=
  let device := deviceNumbers f.node.content
  match which, c with
  | 'H', 'd' => some (.number 0)
  | 'L', 'd' => some (.number 1)
  | 'H', 'r' => some (.number device.1)
  | 'L', 'r' => some (.number device.2)
  | _, _ => none

def letterEscape? (b : UInt8) : Option UInt8 :=
  match chr b with
  | 'a' => some 7
  | 'b' => some 8
  | 'e' => some 27
  | 'f' => some 12
  | 'n' => some 10
  | 'r' => some 13
  | 't' => some 9
  | 'v' => some 11
  | '"' => some 34
  | '\\' => some 92
  | _ => none

def isHex (b : UInt8) : Bool := (Shell.Arithmetic.digit? 16 b).isSome

/-- show the facts by a pattern, in which backslashes may stand for other octets -/
def putBy (f : Facts) (own escapes : Bool) : Nat → Bytes → Work Unit
  | 0, _ => return
  | _, [] => return
  | fuel + 1, 37 :: rest => do
    let (flags, rest') := rest.span fun b => "'-+ #0I".toList.contains (chr b)
    let (width, rest') := rest'.span Shell.isDigit
    let (precision, rest') : Option Nat × Bytes := match rest' with
      | 46 :: more => (some (Shell.natOf (more.takeWhile Shell.isDigit)),
          more.dropWhile Shell.isDigit)
      | more => (none, more)
    let w : Manner := ⟨flags.map chr, Shell.natOf width, precision⟩
    let asIs := rest.take (rest.length - rest'.length)
    match rest' with
    | [] =>
      if !asIs.isEmpty then Work.fail [Quoting.plain (37 :: asIs), text ": invalid directive"]
      Work.put [37]
    | 37 :: more =>
      if !asIs.isEmpty then
        Work.fail [Quoting.plain (37 :: asIs ++ [37]), text ": invalid directive"]
      Work.put [37]
      putBy f own escapes fuel more
    | b :: more =>
      let isSplit : Bool := b = 72 ∨ b = 76
      let found := if isSplit then more.head?.bind fun c => half? f (chr b) (chr c) else none
      match found with
      | some p =>
        Work.put (p.shown w)
        putBy f own escapes fuel (more.drop 1)
      | none =>
        match part? f own (chr b) with
        | some p => Work.put (p.shown w)
        | none =>
          if chr b = 'C' then
            Work.warn [text "failed to get security context of ", Quoting.always f.name,
              text ": No data available"]
          Work.put [63]
        putBy f own escapes fuel more
  | fuel + 1, 92 :: rest => do
    if !escapes then
      Work.put [92]
      putBy f own escapes fuel rest
    else match rest with
      | [] =>
        Work.complain [text "warning: backslash at end of format"]
        Work.put [92]
      | b :: more =>
        let octals := (rest.takeWhile Shell.Format.isOctal).take 3
        let hexes := (more.takeWhile isHex).take 2
        if !octals.isEmpty then
          Work.put [Shell.Format.octalValue octals]
          putBy f own escapes fuel (rest.drop octals.length)
        else if b = 120 ∧ !hexes.isEmpty then
          let n := hexes.foldl (fun n b => n * 16 + (Shell.Arithmetic.digit? 16 b).getD 0) 0
          Work.put [n.toUInt8]
          putBy f own escapes fuel (more.drop hexes.length)
        else
          match letterEscape? b with
          | some o => Work.put [o]
          | none =>
            Work.complain [text "warning: unrecognized escape '\\", [b], text "'"]
            Work.put [b]
          putBy f own escapes fuel more
  | fuel + 1, b :: rest => do
    Work.put [b]
    putBy f own escapes fuel rest

/-- a pattern of one's own -/
inductive Own where
  /-- a line is made of it -/
  | line
  /-- backslashes in it stand for other octets -/
  | escaped
  deriving DecidableEq

structure Choice where
  follows : Bool := false
  terse : Bool := false
  ofSystem : Bool := false
  pattern : Option Bytes := none
  /-- what the pattern is if there is one -/
  own : Own := .line

def take (c : Choice) (g : Given) : Work Choice :=
  match g.letter with
  | 'c' => return { c with pattern := g.value, own := .line }
  | 'p' => return { c with pattern := g.value, own := .escaped }
  | 'L' => return { c with follows := true }
  | 'f' => return { c with ofSystem := true }
  | 't' => return { c with terse := true }
  | _ => return c

def tersePattern : String := "%n %s %b %f %u %g %D %i %h %t %T %X %Y %Z %W %o\n"

def usualPattern (isDevice : Bool) : String :=
  "  File: %N\n  Size: %-10s\tBlocks: %-10b IO Block: %-6o %F\nDevice: %Hd,%Ld\tInode: %-10i  " ++
  (if isDevice then "Links: %-5h Device type: %Hr,%Lr" else "Links: %h") ++
  "\nAccess: (%04a/%10.10A)  Uid: (%5u/%8U)   Gid: (%5g/%8G)\n" ++
  "Access: %x\nModify: %y\nChange: %z\n Birth: %w\n"

end Stat

def stat : Routine := fun args => do
  let (c, operands) ← Work.options { letters := "c:fLt", words := [valued "format" 'c',
    valued "printf" 'p', flag "dereference" 'L', flag "file-system" 'f', flag "terse" 't',
    valued "cached" 'x'] } args { : Stat.Choice } Stat.take
  if operands.isEmpty then Work.missingOperand
  let z ← Clock.zone
  for x in operands do
    let found : FileTree.Answer FileTree.Id ← Work.act (Act.ask fun p s =>
      if x = Work.dash then match s.opened? p 0 with
        | some (_, o) => .ok o.node
        | none => .error Errno.badDescriptor
      else s.find p x c.follows)
    match found with
    | .error e =>
      if x = Work.dash then Work.warn [text "cannot stat standard input: ", reason e]
      else Work.warn [text "cannot statx ", Quoting.always x, text ": ", reason e]
    | .ok n =>
      let t ← Work.act Act.tree
      let node := t.node n
      let facts : Stat.Facts :=
        { name := x, id := n, node := node, moment := Clock.changed z node
          links := t.linkCount n }
      let isDevice := match node.content with
        | .device _ => true
        | _ => false
      let (own, pattern) := match c.pattern with
        | some pattern => (true, pattern)
        | none => (false, text (if c.terse then Stat.tersePattern
            else Stat.usualPattern isDevice))
      Stat.putBy facts own (own && c.own = .escaped) (pattern.length + 1) pattern
      if own && c.own = .line then Work.put [newline]

end JarLauncher.Tool
