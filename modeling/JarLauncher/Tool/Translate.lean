import JarLauncher.Shell.Format
import JarLauncher.Tool.Option

/-! Octets put in the place of others, left out, or left once of many in a row. -/

namespace JarLauncher.Tool

open Unix
open Shell (text newline chr)

namespace Translate

/-- a part of a set of octets -/
inductive Element where
  | octets (bs : Bytes)
  /-- one octet as often as is said, or as often as it takes -/
  | repeated (b : UInt8) (count : Nat)

/-- an octet of a set, maybe escaped, and whether it was -/
def octet? (bs : Bytes) : Option (UInt8 × Bool × Bytes) :=
  match bs with
  | [] => none
  | 92 :: b :: rest =>
    if Shell.Format.isOctal b then
      let digits := ((b :: rest).takeWhile Shell.Format.isOctal).take 3
      let digits := if digits.length = 3 ∧ 255 < digits.foldl (fun n d => n * 8 + (d.toNat - 48)) 0
        then digits.take 2 else digits
      some (Shell.Format.octalValue digits, true, (b :: rest).drop digits.length)
    else some (if b = 101 then b else (Shell.Format.letter? b).getD b, true, rest)
  | b :: rest => some (b, false, rest)

def all : Bytes := (List.range 256).map Nat.toUInt8

def class? (name : Bytes) : Option Bytes :=
  let isLower (b : UInt8) : Bool := 97 ≤ b && b ≤ 122
  let isUpper (b : UInt8) : Bool := 65 ≤ b && b ≤ 90
  let isAlpha (b : UInt8) : Bool := isLower b || isUpper b
  let pick (p : UInt8 → Bool) : Option Bytes := some (all.filter p)
  match Utf8.lossy name with
  | "alpha" => pick isAlpha
  | "digit" => pick Shell.isDigit
  | "alnum" => pick fun b => isAlpha b || Shell.isDigit b
  | "upper" => pick isUpper
  | "lower" => pick isLower
  | "space" => pick fun b => b == 32 || (9 ≤ b && b ≤ 13)
  | "blank" => pick fun b => b == 32 || b == 9
  | "cntrl" => pick fun b => b < 32 || b == 127
  | "print" => pick Quoting.isPrintable
  | "graph" => pick fun b => Quoting.isPrintable b && b != 32
  | "punct" => pick fun b => Quoting.isPrintable b && b != 32 && !isAlpha b && !Shell.isDigit b
  | "xdigit" => pick fun b =>
    Shell.isDigit b || (97 ≤ b && b ≤ 102) || (65 ≤ b && b ≤ 70)
  | _ => none

/-- what stands in brackets at the front of a set: a class, one octet, or a repeated one -/
def bracket? (bs : Bytes) : Work (Option (Element × Bytes)) := do
  match bs with
  | 91 :: 58 :: rest =>
    let name := rest.takeWhile (· ≠ 58)
    if (rest.drop name.length).take 2 = [58, 93] then
      match class? name with
      | some members => return some (.octets members, rest.drop (name.length + 2))
      | none => Work.fail [text "invalid character class ", Quoting.plain name]
    else return none
  | 91 :: 61 :: b :: 61 :: 93 :: rest => return some (.octets [b], rest)
  | 91 :: rest =>
    match octet? rest with
    | some (b, _, 42 :: more) =>
      let digits := more.takeWhile Shell.isDigit
      match more.drop digits.length with
      | 93 :: rest =>
        let base := if digits.head? = some 48 then 8 else 10
        return some (.repeated b (digits.foldl (fun n d => n * base + (d.toNat - 48)) 0), rest)
      | _ => return none
    | _ => return none
  | _ => return none

def shownOctet (b : UInt8) : Bytes :=
  if Quoting.isPrintable b then [b] else 92 :: [b / 64 + 48, b / 8 % 8 + 48, b % 8 + 48]

def elements : Nat → Bytes → Work (List Element)
  | 0, _ => return []
  | fuel + 1, bs => do
    if bs.isEmpty then return []
    if let some (e, rest) ← bracket? bs then return e :: (← elements fuel rest)
    match octet? bs with
    | none => return []
    | some (lo, _, rest) =>
      match rest with
      | 45 :: more =>
        match octet? more with
        | some (hi, _, rest) =>
          if hi < lo then
            Work.fail [text "range-endpoints of '", shownOctet lo, text "-", shownOctet hi,
              text "' are in reverse collating sequence order"]
          let run := (List.range (hi.toNat - lo.toNat + 1)).map fun i => lo + i.toUInt8
          return .octets run :: (← elements fuel rest)
        | none => return .octets [lo] :: (← elements fuel rest)
      | _ => return .octets [lo] :: (← elements fuel rest)

/-- the octets of a set, which a repeated one fills up to a length -/
def members (length : Nat) (es : List Element) : Bytes :=
  let known := es.foldl (fun sum e => sum + match e with
    | .octets bs => bs.length
    | .repeated _ n => n) 0
  es.flatMap fun
    | .octets bs => bs
    | .repeated b n => List.replicate (if n = 0 then length - known else n) b

def read (bs : Bytes) : Work (List Element) := elements (bs.length + 1) bs

structure Choice where
  complement : Bool
  deletes : Bool
  squeezes : Bool
  truncates : Bool

/-- what becomes of each octet: another one or nothing; and those of which one is left of a run -/
structure Plan where
  become : Array (Option UInt8)
  squeezed : Array Bool

def tabulate {α : Type} (f : UInt8 → α) : Array α := (all.map f).toArray

def plan (c : Choice) (set1 : Bytes) (set2 : Option (List Element)) : Work Plan := do
  let set1 := if c.complement then all.filter fun b => !set1.contains b else set1
  let second (length : Nat) : Bytes := (set2.map (members length)).getD []
  if c.deletes then
    let set2 := second 0
    return ⟨tabulate fun b => if set1.contains b then none else some b,
      tabulate fun b => c.squeezes && set2.contains b⟩
  match set2 with
  | none => return ⟨tabulate some, tabulate fun b => set1.contains b⟩
  | some _ =>
    let set2 := second set1.length
    if set2 = [] ∧ !c.truncates then
      Work.fail [text "when not truncating set1, string2 must be non-empty"]
    let set1 := if c.truncates then set1.take set2.length else set1
    let pairs := (set1.zipIdx.map fun (b, i) => (b, set2.getD i (set2.getLastD 0))).reverse
    return ⟨tabulate fun b => some ((pairs.lookup b).getD b),
      tabulate fun b => c.squeezes && set2.contains b⟩

def apply (p : Plan) (last : Option UInt8) (piece : ByteArray) : ByteArray × Option UInt8 :=
  piece.foldl (fun (out, last) b =>
    match (p.become[b.toNat]?).join with
    | none => (out, last)
    | some b =>
      if last = some b && p.squeezed.getD b.toNat false then (out, last)
      else (out.push b, some b)) (ByteArray.empty, last)

end Translate

def tr : Routine := fun args => do
  let (on, operands) ← Work.flags { letters := "+AcCdst", ordered := true, words :=
    [flag "complement" 'c', flag "delete" 'd', flag "squeeze-repeats" 's',
      flag "truncate-set1" 't'] } args
  let c : Translate.Choice := ⟨on.contains 'c' || on.contains 'C', on.contains 'd', on.contains 's',
    on.contains 't'⟩
  let most := if c.deletes && !c.squeezes then 1 else 2
  let least := if c.deletes == c.squeezes then 2 else 1
  let more (words : String) : Work Unit := Work.say [text words, [newline]]
  match operands with
  | [] => Work.missingOperand
  | [x] =>
    if least = 2 then
      Work.complain [text "missing operand after ", Quoting.plain x]
      more (if c.squeezes then "Two strings must be given when both deleting and squeezing repeats."
        else "Two strings must be given when translating.")
      Work.usage
  | _ => pure ()
  if let some extra := operands[most]? then
    Work.complain [text "extra operand ", Quoting.plain extra]
    if operands.length = 2 then
      more "Only one string may be given when deleting without squeezing repeats."
    Work.usage
  let set1 := Translate.members 0 (← Translate.read (operands.headD []))
  let set2 ← operands[1]?.mapM Translate.read
  let plan ← Translate.plan c set1 set2
  Work.loop none fun last => do
    match ← Work.act (Act.read 0 8192) with
    | .error e => Work.fail [text "read error: ", reason e]
    | .ok piece =>
      if piece.isEmpty then return .error ()
      let (out, last) := Translate.apply plan last piece
      Work.putPiece out
      return .ok last

end JarLauncher.Tool
