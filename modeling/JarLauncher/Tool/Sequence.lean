import JarLauncher.Tool.Option
import JarLauncher.Shell.Format

/-! Sequences of numbers, from one number to another by equal steps. Numbers are decimal and exact:
a whole number of parts, each a power of the tenth. -/

namespace JarLauncher.Tool

open Shell (text newline)

structure Decimal where
  parts : Int
  places : Nat
  /-- the octets that it was written with, to compare widths by -/
  width : Nat

namespace Decimal

def ofOctets? (written : Bytes) : Option Decimal :=
  let bs := written.dropWhile Shell.isBlank
  let (negative, digits) := match bs with
    | 45 :: rest => (true, rest)
    | 43 :: rest => (false, rest)
    | _ => (false, bs)
  let (whole, rest) := digits.span Shell.isDigit
  let (fraction, rest) := match rest with
    | 46 :: more => more.span Shell.isDigit
    | _ => ([], rest)
  let exponent : Option Int := match rest with
    | [] => some 0
    | 101 :: 45 :: ds | 69 :: 45 :: ds => (Shell.natOf? ds).map fun n => -(n : Int)
    | 101 :: 43 :: ds | 69 :: 43 :: ds => (Shell.natOf? ds).map Int.ofNat
    | 101 :: ds | 69 :: ds => (Shell.natOf? ds).map Int.ofNat
    | _ => none
  match exponent with
  | none => none
  | some e =>
    if whole = [] ∧ fraction = [] then none
    else
      let n : Int := Shell.natOf (whole ++ fraction)
      let n := if negative then -n else n
      let places : Int := fraction.length - e
      some (if places < 0 then ⟨n * Nat.pow 10 (-places).toNat, 0, written.length⟩
        else ⟨n, places.toNat, written.length⟩)

/-- the number in parts of the given size -/
def scaled (d : Decimal) (places : Nat) : Int := d.parts * Nat.pow 10 (places - d.places)

end Decimal

/-- a number of parts in decimal notation, filled with zeros to a width -/
def decimalText (n : Int) (places width : Nat) : Bytes :=
  let ds := Shell.decimal n.natAbs
  let ds := List.replicate (places + 1 - ds.length) 48 ++ ds
  let whole := ds.take (ds.length - places)
  let body := if places = 0 then whole else whole ++ 46 :: ds.drop (ds.length - places)
  let sign : Bytes := if n < 0 then [45] else []
  sign ++ List.replicate (width - sign.length - body.length) 48 ++ body

/-- a template of one number: what stands around the directive, and the directive -/
structure Template where
  front : Bytes
  directive : Bytes
  behind : Bytes

namespace Template

def isFlag (b : UInt8) : Bool := "-+#0 '".toList.contains (Shell.chr b)

def isKind (b : UInt8) : Bool := "efgaEFGA".toList.contains (Shell.chr b)

/-- octets up to a directive; two signs of percent stand for one -/
def untilDirective : Bytes → Bytes × Bytes
  | 37 :: 37 :: rest =>
    let (plain, rest) := untilDirective rest
    (37 :: plain, rest)
  | 37 :: rest => ([], 37 :: rest)
  | b :: rest =>
    let (plain, rest) := untilDirective rest
    (b :: plain, rest)
  | [] => ([], [])

/-- a template as it is written, or what is wrong with it -/
def ofOctets (bs : Bytes) : Except String Template := do
  let (before, rest) := untilDirective bs
  let some rest := (match rest with
    | _ :: rest => some rest
    | [] => none) | throw "has no % directive"
  let (flags, rest) := rest.span isFlag
  let (width, rest) := rest.span Shell.isDigit
  let (precision, rest) := match rest with
    | 46 :: more =>
      let (digits, rest) := more.span Shell.isDigit
      (46 :: digits, rest)
    | rest => ([], rest)
  let rest := if rest.head? = some 76 then rest.drop 1 else rest
  match rest with
  | [] => throw "ends in %"
  | kind :: rest =>
    if !isKind kind then
      throw ("has unknown %" ++ String.singleton (Shell.chr kind) ++ " directive")
    let (behind, more) := untilDirective rest
    if !more.isEmpty then throw "has too many % directives"
    return ⟨before, 37 :: flags.filter (· ≠ 39) ++ width ++ precision ++ [kind], behind⟩

/-- a number as a template shows it -/
def shown (t : Template) (value : Bytes) : Bytes :=
  t.front ++ (Shell.Format.format t.directive [value]).output.reverse.flatten ++ t.behind

end Template

structure Seq where
  separator : Bytes := [newline]
  equalWidth : Bool := false
  format : Option Bytes := none

def seq : Routine := fun args => do
  let menu : Menu :=
    { letters := "f:s:w"
      words := [valued "format" 'f', valued "separator" 's', flag "equal-width" 'w']
      ordered := true }
  let isNumber (arg : Bytes) : Bool := match arg with
    | 45 :: b :: _ => Shell.isDigit b || b == 46
    | _ => false
  let (front, rest) := args.span fun a => !isNumber a
  let (how, operands) ← Work.options menu (if front.contains (text "--") || rest.isEmpty ||
      front.any (fun a => a.head? ≠ some 45) then args else front ++ text "--" :: rest) { : Seq }
    fun how g => return match g.letter with
      | 's' => { how with separator := g.value.getD [] }
      | 'w' => { how with equalWidth := true }
      | _ => { how with format := g.value }
  if operands.isEmpty then Work.missingOperand
  if let some extra := operands[3]? then Work.extraOperand extra
  let template ← how.format.mapM fun format => do
    match Template.ofOctets format with
    | .ok t => return t
    | .error fault => Work.fail [text "format ", Quoting.plain format, text (" " ++ fault)]
  if template.isSome && how.equalWidth then
    Work.misuse [text "format string may not be specified when printing equal width strings"]
  let number (bs : Bytes) : Work Decimal := do
    match Decimal.ofOctets? bs with
    | some d => return d
    | none => Work.misuse [text "invalid floating point argument: ", Quoting.plain bs]
  let one : Decimal := ⟨1, 0, 1⟩
  let (first, step, last) ← match operands with
    | [c] => pure (one, one, ← number c)
    | [a, c] => pure (← number a, one, ← number c)
    | a :: b :: c :: _ => do
      let first ← number a
      let step ← number b
      if step.parts = 0 then Work.misuse [text "invalid Zero increment value: ", Quoting.plain b]
      pure (first, step, ← number c)
    | [] => Work.missingOperand
  let places := max first.places step.places
  let fine := max places last.places
  let a := first.scaled fine
  let s := step.scaled fine
  let z := last.scaled fine
  let count : Nat := if 0 < s then (if a ≤ z then ((z - a) / s).toNat + 1 else 0)
    else if z ≤ a then ((a - z) / (-s)).toNat + 1 else 0
  let unit : Int := Nat.pow 10 (fine - places)
  let plain (n : Int) (width : Nat) : Bytes := decimalText (n / unit) places width
  let width := if how.equalWidth then
      max (plain a 0).length (plain (a + s * (count - 1 : Nat)) 0).length
    else 0
  let shown (n : Int) : Bytes := match template with
    | some t => t.shown (plain n 0)
    | none => plain n width
  let _ ← Work.loop 0 fun i => do
    if i = count then return .error ()
    Work.put ((if i = 0 then [] else how.separator) ++ shown (a + s * i))
    return .ok (i + 1)
  if count ≠ 0 then Work.put [newline]

end JarLauncher.Tool
