import JarLauncher.Shell.Format
import JarLauncher.Tool.Option

/-! The tool that shows its arguments as a format says. A format is gone through again while it
takes arguments and some are left. -/

namespace JarLauncher.Tool

open Shell (text)
open Shell.Format (Directive isOctal octalValue)

namespace Print

def hexValue (digits : Bytes) : Nat :=
  digits.foldl (fun n b => n * 16 + (Shell.Arithmetic.digit? 16 b).getD 0) 0

def isHex (b : UInt8) : Bool := (Shell.Arithmetic.digit? 16 b).isSome

def noHex {α : Type} : Work α := Work.fail [text "missing hexadecimal number in escape"]

/-- a character by its number: one outside ASCII is shown as its escape, as the locale has no octets
for it -/
def character (kind : UInt8) (digits : Bytes) : Work Bytes := do
  let n := hexValue digits
  if n < 128 then return [n.toUInt8]
  if 0xd800 ≤ n ∧ n ≤ 0xdfff then
    Work.fail [text "invalid universal character name \\", [kind],
      digits.map fun b => if 65 ≤ b ∧ b ≤ 70 then b + 32 else b]
  let shown := (Nat.toDigits 16 n).map fun c => c.toUpper.toNat.toUInt8
  let (letter, width) := if n < 0x10000 then (117, 4) else (85, 8)
  return 92 :: letter :: List.replicate (width - shown.length) 48 ++ shown

/-- an escape whose backslash was taken: what it shows, and what follows; `zero` if an octal number
may have a zero more in front -/
def escape (zero : Bool) (bs : Bytes) : Work (Bytes × Bytes) := do
  match bs with
  | [] => return ([92], [])
  | b :: rest =>
    if b = 120 then
      let digits := (rest.takeWhile isHex).take 2
      if digits.isEmpty then noHex
      return ([(hexValue digits).toUInt8], rest.drop digits.length)
    else if isOctal b then
      let bs := if zero && b = 48 then rest else bs
      let digits := (bs.takeWhile isOctal).take 3
      return ([octalValue digits], bs.drop digits.length)
    else if b = 99 then throw 0
    else if b = 34 then return ([34], rest)
    else if b = 117 ∨ b = 85 then
      let count := if b = 117 then 4 else 8
      let digits := (rest.takeWhile isHex).take count
      if digits.length < count then noHex
      return (← character b digits, rest.drop count)
    else match Shell.Format.letter? b with
      | some o => return ([o], rest)
      | none => return ([92, b], rest)

/-- show a text with escapes -/
def putEscaped : Nat → Bytes → Work Unit
  | 0, _ => return
  | fuel + 1, bs => do
    let (run, rest) := bs.span (· ≠ 92)
    Work.put run
    match rest with
    | [] => return
    | _ :: rest =>
      let (shown, rest) ← escape true rest
      Work.put shown
      putEscaped fuel rest

/-- say what is wrong with an argument of which `rest` was not read as a number -/
def check (arg rest : Bytes) (inRange : Bool) : Work Unit := do
  if !inRange then Work.warn [Quoting.plain arg, text ": ", reason Errno.outOfRange]
  else if rest ≠ [] then
    Work.warn [Quoting.plain arg, text (if rest = arg then ": expected a numeric value"
      else ": value not completely converted")]

/-- the octet that an argument names by a quote in front of it -/
def quoted? (arg : Bytes) : Work (Option UInt8) := do
  match arg with
  | 39 :: b :: rest | 34 :: b :: rest =>
    if rest ≠ [] then
      Work.complain [text "warning: ", rest,
        text ": character(s) following character constant have been ignored"]
    return some b
  | _ => return none

/-- a whole number -/
def integer (signed : Bool) (arg : Bytes) : Work Int := do
  if let some b ← quoted? arg then return b.toNat
  match Shell.Arithmetic.scanInt? arg with
  | none =>
    check arg arg true
    return 0
  | some (n, rest) =>
    let (low, high) : Int × Int :=
      if signed then (Shell.Arithmetic.least, Shell.Arithmetic.greatest)
      else (1 - Shell.Arithmetic.words, Shell.Arithmetic.words - 1)
    let inRange : Bool := low ≤ n && n ≤ high
    check arg rest inRange
    return if signed then Shell.Arithmetic.clamp n else if inRange then n else high

/-- a number with a fraction -/
def fractional (arg : Bytes) : Work Text.Floating := do
  if let some b ← quoted? arg then return ⟨false, .finite b.toNat 0⟩
  match Text.Floating.scan? arg with
  | none =>
    check arg arg true
    return .zero
  | some (x, read) =>
    check arg read.rest read.inRange
    return x

/-- the greatest width, and the greatest precision -/
def greatestSize : Int := 2147483647

/-- a width or a precision at the front of a format, which a star takes from the arguments -/
def size (what : String) (bs : Bytes) (args : List Bytes) :
    Work (Option Int × Bytes × List Bytes) := do
  match bs, args with
  | 42 :: rest, [] => return (some 0, rest, [])
  | 42 :: rest, arg :: args =>
    let n ← integer true arg
    if greatestSize < n ∨ (what = "field width" ∧ n < -1 - greatestSize) then
      Work.fail [text ("invalid " ++ what ++ ": "), Quoting.plain arg]
    return (some n, rest, args)
  | _, _ =>
    let (digits, rest) := bs.span Shell.isDigit
    return ((Shell.natOf? digits).map Int.ofNat, rest, args)

/-- the conversions that flags and a precision leave -/
def allowed (flags : Bytes) (isPrecise : Bool) (conversion : Char) : Bool :=
  let has (c : Char) : Bool := flags.any fun b => Shell.chr b = c
  "aAcdeEfFgGiosuxX".toList.contains conversion &&
    !((has '\x27' || has 'I') && "aAceEosxX".toList.contains conversion) &&
    !(has '#' && "cdisu".toList.contains conversion) &&
    !(has '0' && "cs".toList.contains conversion) && !(isPrecise && conversion = 'c')

def isFlag (b : UInt8) : Bool := "-+ #0'I".toList.contains (Shell.chr b)

def isLength (b : UInt8) : Bool := "lLhjtz".toList.contains (Shell.chr b)

/-- show an argument as a conversion asks for -/
def convert (d : Directive) (conversion : Char) (arg : Bytes) : Work Bytes := do
  if conversion = 's' then return d.padded false [] (d.cut arg)
  else if conversion = 'c' then return d.padded false [] [arg.headD 0]
  else if conversion = 'd' ∨ conversion = 'i' then
    return d.number conversion (← integer true arg)
  else if "ouxX".toList.contains conversion then
    return d.number conversion (← integer false arg)
  else return d.floating conversion (← fractional arg)

/-- show what follows a percent sign in a format; then what is left of the format and of the
arguments -/
def directive (bs : Bytes) (args : List Bytes) : Work (Bytes × List Bytes) := do
  match bs with
  | 37 :: rest =>
    Work.put [37]
    return (rest, args)
  | 98 :: rest =>
    let arg := args.headD []
    putEscaped (arg.length + 1) arg
    return (rest, args.drop 1)
  | 113 :: rest =>
    Work.put ((args.head?.map Quoting.name).getD [])
    return (rest, args.drop 1)
  | _ =>
    let (flags, rest) := bs.span isFlag
    let has (c : Char) : Bool := flags.any fun b => Shell.chr b = c
    let (width, rest, args) ← size "field width" rest args
    let isPrecise := rest.head? = some 46
    let (precision, rest, args) ← if isPrecise then size "precision" (rest.drop 1) args
      else pure (none, rest, args)
    let precision := if isPrecise then some (precision.getD 0) else none
    let after := (rest.dropWhile isLength).drop 1
    let kind := (rest.dropWhile isLength).head?
    let conversion := Shell.chr (kind.getD 0)
    if !allowed flags isPrecise conversion then
      Work.fail [[37], bs.take (bs.length - after.length),
        text ": invalid conversion specification"]
    let w := width.getD 0
    let d : Directive :=
      { left := has '-' || decide (w < 0), plus := has '+', space := has ' ', alternate := has '#',
        zero := has '0', width := w.natAbs,
        precision := precision.bind fun n => if n < 0 then none else some n.toNat }
    Work.put (← convert d conversion (args.headD []))
    return (after, args.drop 1)

/-- show a format once; what is left of the arguments -/
def once : Nat → Bytes → List Bytes → Work (List Bytes)
  | 0, _, args => return args
  | fuel + 1, bs, args => do
    match bs with
    | [] => return args
    | 92 :: rest =>
      let (shown, rest) ← escape false rest
      Work.put shown
      once fuel rest args
    | 37 :: rest =>
      let (rest, args) ← directive rest args
      once fuel rest args
    | _ =>
      let (run, rest) := bs.span fun b => b ≠ 37 && b ≠ 92
      Work.put run
      once fuel rest args

/-- show a format again and again -/
def rounds (format : Bytes) : Nat → List Bytes → Work Unit
  | 0, _ => return
  | fuel + 1, args => do
    let rest ← once (format.length + 1) format args
    if rest.isEmpty then return
    if rest.length < args.length then rounds format fuel rest
    else
      Work.complain [text "warning: ignoring excess arguments, starting with ",
        Quoting.plain (rest.headD [])]

end Print

def printf : Routine := fun args => do
  if args = [text "--help"] ∨ args = [text "--version"] then throw 0
  let args := if args.head? = some (text "--") then args.drop 1 else args
  match args with
  | [] => Work.missingOperand
  | format :: args => Print.rounds format (args.length + 1) args

end JarLauncher.Tool
