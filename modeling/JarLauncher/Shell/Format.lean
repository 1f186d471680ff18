import JarLauncher.Shell.Arithmetic
import JarLauncher.Text.Floating

/-! Output formats: backslash escapes, and directives that each show one argument. A format is read
while it is shown, so that what stands before a mistake in it is shown. -/

namespace JarLauncher.Shell.Format

open Text (Floating)

def isOctal (b : UInt8) : Bool := 48 ≤ b && b ≤ 55

def octalValue (digits : Bytes) : UInt8 :=
  (digits.foldl (fun (n : Nat) (b : UInt8) => n * 8 + (b.toNat - 48)) 0).toUInt8

/-- the octet of an escape by one letter -/
def letter? (b : UInt8) : Option UInt8 :=
  match chr b with
  | 'a' => some 7
  | 'b' => some 8
  | 'e' => some 27
  | 'f' => some 12
  | 'n' => some 10
  | 'r' => some 13
  | 't' => some 9
  | 'v' => some 11
  | '\\' => some 92
  | _ => none

/-- the octet of an escape whose backslash was taken, and what follows; a backslash that opens no
escape is itself -/
def escape (bs : Bytes) : UInt8 × Bytes :=
  match bs with
  | b :: rest =>
    if isOctal b then
      let digits := (bs.takeWhile isOctal).take 3
      (octalValue digits, bs.drop digits.length)
    else match letter? b with
      | some o => (o, rest)
      | none => (92, bs)
  | [] => (92, [])

/-- The octets that a text with escapes stands for, and whether `\c` ended it. Octal escapes may
have a zero more in front. -/
def unescapeFrom : Nat → Bytes → Bytes → Bytes × Bool
  | 0, _, done => (done.reverse, false)
  | fuel + 1, bs, done =>
    match bs with
    | [] => (done.reverse, false)
    | 92 :: rest =>
      match rest with
      | 99 :: _ => (done.reverse, true)
      | 48 :: b :: more =>
        let (o, rest) := escape (if isOctal b then b :: more else rest)
        unescapeFrom fuel rest (o :: done)
      | _ =>
        let (o, rest) := escape rest
        unescapeFrom fuel rest (o :: done)
    | b :: rest => unescapeFrom fuel rest (b :: done)

def unescape (bs : Bytes) : Bytes × Bool := unescapeFrom (bs.length + 1) bs []

/-- arguments on one line; `-n` in front leaves the line open -/
def echo (args : List Bytes) : Bytes :=
  let (isOpen, args) := match args with
    | [45, 110] :: rest => (true, rest)
    | args => (false, args)
  let (bs, ended) := unescape ((args.intersperse [32]).flatten)
  if isOpen || ended then bs else bs ++ [newline]

structure Directive where
  left : Bool
  plus : Bool
  space : Bool
  alternate : Bool
  zero : Bool
  width : Nat
  precision : Option Nat

def Directive.padded (d : Directive) (byZeros : Bool) (sign body : Bytes) : Bytes :=
  let fill := d.width - (sign.length + body.length)
  if d.left then sign ++ body ++ List.replicate fill 32
  else if d.zero && byZeros then sign ++ List.replicate fill 48 ++ body
  else List.replicate fill 32 ++ sign ++ body

def Directive.cut (d : Directive) (bs : Bytes) : Bytes :=
  match d.precision with
  | some n => bs.take n
  | none => bs

def Directive.sign (d : Directive) (negative : Bool) : Bytes :=
  if negative then [45] else if d.plus then [43] else if d.space then [32] else []

def digitsIn (base : Nat) (n : Nat) : Bytes :=
  (Nat.toDigits base n).map fun c => c.toNat.toUInt8

def Directive.number (d : Directive) (conversion : Char) (n : Int) : Bytes :=
  let signed := conversion = 'd' ∨ conversion = 'i'
  let magnitude : Nat := if signed then n.natAbs else (n % Arithmetic.words).toNat
  let digits : Bytes := match conversion with
    | 'o' => digitsIn 8 magnitude
    | 'x' => digitsIn 16 magnitude
    | 'X' => (digitsIn 16 magnitude).map Floating.upper
    | _ => digitsIn 10 magnitude
  let digits : Bytes := match d.precision with
    | some p =>
      List.replicate (p - digits.length) 48 ++ if p = 0 ∧ magnitude = 0 then [] else digits
    | none => digits
  let digits : Bytes := if conversion = 'o' ∧ d.alternate ∧ digits.head? ≠ some 48 then 48 :: digits
    else digits
  let sign : Bytes :=
    if signed then d.sign (n < 0)
    else if d.alternate ∧ magnitude ≠ 0 then
      match conversion with
      | 'x' => [48, 120]
      | 'X' => [48, 88]
      | _ => []
    else []
  d.padded d.precision.isNone sign digits

def Directive.floating (d : Directive) (conversion : Char) (x : Floating) : Bytes :=
  let bs := Floating.write x.magnitude conversion.toLower d.precision d.alternate
  let bs := if conversion.isUpper then bs.map Floating.upper else bs
  let isFinite : Bool := match x.magnitude with
    | .finite .. => true
    | _ => false
  let (sign, bs) := if isFinite ∧ conversion.toLower = 'a' then
      (d.sign x.negative ++ bs.take 2, bs.drop 2)
    else (d.sign x.negative, bs)
  d.padded isFinite sign bs

/-- what a format has shown so far -/
structure Shown where
  /-- the pieces of the output, the last one first -/
  output : List Bytes
  args : List Bytes
  /-- what was wrong with arguments, the last one first -/
  complaints : List Bytes
  /-- why it ended before the end of the format: a mistake in it, or none -/
  ended : Option (Option Bytes)

namespace Shown

def next (s : Shown) : Option Bytes × Shown := (s.args.head?, { s with args := s.args.drop 1 })

def put (s : Shown) (bs : Bytes) : Shown := { s with output := bs :: s.output }

def complain (s : Shown) (arg : Bytes) (message : String) : Shown :=
  { s with complaints := (arg ++ text (": " ++ message)) :: s.complaints }

/-- what is wrong with an argument of which `rest` was not read as a number -/
def check (s : Shown) (arg rest : Bytes) (inRange : Bool) : Shown :=
  if rest ≠ [] then
    s.complain arg (if rest = arg then "expected numeric value" else "not completely converted")
  else if inRange then s
  else s.complain arg "Numerical result out of range"

/-- the character that an argument names by a quote in front of it -/
def character? (arg : Bytes) : Option UInt8 :=
  match arg with
  | 39 :: rest | 34 :: rest => some (rest.headD 0)
  | _ => none

def number (s : Shown) (signed : Bool) : Int × Shown :=
  match s.next with
  | (none, s) => (0, s)
  | (some arg, s) =>
    match character? arg with
    | some b => (b.toNat, s)
    | none =>
      match Arithmetic.scanInt? arg with
      | none => (0, s.check arg arg true)
      | some (n, rest) =>
        let (low, high) : Int × Int := if signed then (Arithmetic.least, Arithmetic.greatest)
          else (1 - Arithmetic.words, Arithmetic.words - 1)
        let inRange : Bool := low ≤ n && n ≤ high
        let n := if signed then Arithmetic.clamp n else if inRange then n else high
        (n, s.check arg rest inRange)

def floating (s : Shown) : Floating × Shown :=
  match s.next with
  | (none, s) => (.zero, s)
  | (some arg, s) =>
    match character? arg with
    | some b => (⟨false, .finite b.toNat 0⟩, s)
    | none =>
      match Floating.scan? arg with
      | none => (.zero, s.check arg arg true)
      | some (x, read) => (x, s.check arg read.rest read.inRange)

/-- a width or a precision at the front of a format, which a star takes from the arguments -/
def size (s : Shown) (bs : Bytes) : Option Int × Shown × Bytes :=
  match bs with
  | 42 :: rest =>
    let (n, s) := s.number true
    (some (Int.bmod n 4294967296), s, rest)
  | _ =>
    let (digits, rest) := bs.span fun b => isDigit b || b == 42
    ((natOf? digits).map Int.ofNat, s, rest)

def fail (s : Shown) (message : Bytes) : Shown := { s with ended := some (some message) }

/-- show what follows a percent sign in a format; then what is left of the format -/
def directive (s : Shown) (bs : Bytes) : Shown × Bytes :=
  let (flags, rest) := bs.span fun b => "-+ #0".toList.contains (chr b)
  let has (c : Char) : Bool := flags.any fun b => chr b = c
  let (width, s, rest) := s.size rest
  let (precision, s, rest) := match rest with
    | 46 :: more =>
      let (p, s, more) := s.size more
      (some (p.getD 0), s, more)
    | _ => (none, s, rest)
  match rest with
  | [] => (s.fail (text "missing format character"), [])
  | b :: after =>
    let w := width.getD 0
    let d : Directive := ⟨has '-' || decide (w < 0), has '+', has ' ', has '#', has '0', w.natAbs,
      precision.bind fun n => if n < 0 then none else some n.toNat⟩
    let conversion := chr b
    if conversion = 's' then
      let (arg, s) := s.next
      (s.put (d.padded false [] (d.cut (arg.getD []))), after)
    else if conversion = 'b' then
      let (arg, s) := s.next
      let (bs, ended) := unescape (arg.getD [])
      let s := s.put (d.padded false [] (d.cut bs))
      (if ended then { s with ended := some none } else s, after)
    else if conversion = 'c' then
      let (arg, s) := s.next
      (s.put (d.padded false [] [(arg.getD []).headD 0]), after)
    else if conversion = 'd' ∨ conversion = 'i' then
      let (n, s) := s.number true
      (s.put (d.number conversion n), after)
    else if "ouxX".toList.contains conversion then
      let (n, s) := s.number false
      (s.put (d.number conversion n), after)
    else if "aAeEfFgG".toList.contains conversion then
      let (x, s) := s.floating
      (s.put (d.floating conversion x), after)
    else
      let spelling := bs.take (bs.length - after.length)
      (s.fail (37 :: (spelling ++ text ": invalid directive")), [])

/-- show a format once; `fuel` bounds its octets -/
def once (s : Shown) : Nat → Bytes → Shown
  | 0, _ => s
  | fuel + 1, bs =>
    if s.ended.isSome then s
    else match bs with
      | [] => s
      | 92 :: rest =>
        let (o, rest) := escape rest
        (s.put [o]).once fuel rest
      | 37 :: 37 :: rest => (s.put [37]).once fuel rest
      | 37 :: rest =>
        let (s, rest) := s.directive rest
        s.once fuel rest
      | _ =>
        let (run, rest) := bs.span fun b => b ≠ 37 && b ≠ 92
        (s.put run).once fuel rest

/-- show a format again and again while it takes arguments and some are left -/
def rounds (template : Bytes) : Nat → Shown → Shown
  | 0, s => s
  | fuel + 1, s =>
    let s' := s.once (template.length + 1) template
    if s'.ended.isSome || s'.args.isEmpty || s'.args.length == s.args.length then s'
    else rounds template fuel s'

end Shown

def format (template : Bytes) (args : List Bytes) : Shown :=
  Shown.rounds template (args.length + 1) ⟨[], args, [], none⟩

end JarLauncher.Shell.Format
