import JarLauncher.Calendar
import JarLauncher.Utf8

/-! Moments written by a pattern, in which a percent sign and a letter stand for a part of the
moment. Between them may be signs that say how the part is filled up, and how wide it is. -/

namespace JarLauncher.Calendar

namespace Format

/-- what stands between a percent sign and its letter -/
structure Manner where
  /-- what the part is filled up with: `-` for nothing, `_` for blanks, `0` or `+` for zeros -/
  fill : Option Char := none
  upper : Bool := false
  swapped : Bool := false
  width : Option Nat := none
  colons : Nat := 0
  /-- an E or an O -/
  variant : Option Char := none

/-- what a percent sign and a letter stand for -/
inductive Part where
  /-- a number that has so many digits at least, filled up with blanks or zeros -/
  | number (n : Int) (digits : Nat) (blanks : Bool)
  | word (s : String)
  /-- a word that is written in small letters on demand -/
  | caption (s : String)
  /-- a fraction of a second -/
  | nanos (n : Nat)
  /-- how far the clock is ahead -/
  | offset
  | pattern (cs : List Char)

/-- what letters stand for that may have an E or an O before them -/
def variants (c : Char) : List Char :=
  if c = 'E' then "cCxXyY".toList else "dHeIklmMSuUVwWyqBbh".toList

def part? (m : Moment) (c : Char) : Option Part :=
  let d := m.date
  let two (n : Nat) : Option Part := some (.number n 2 false)
  let hour12 := if m.hour % 12 = 0 then 12 else m.hour % 12
  let half := if m.hour < 12 then "AM" else "PM"
  match c with
  | 'a' => some (.word (String.ofList (d.weekdayName.toList.take 3)))
  | 'A' => some (.word d.weekdayName)
  | 'b' | 'h' => some (.word (String.ofList (d.monthName.toList.take 3)))
  | 'B' => some (.word d.monthName)
  | 'c' => some (.pattern "%a %b %e %H:%M:%S %Y".toList)
  | 'C' => some (.number (Int.fdiv d.year 100) 2 false)
  | 'd' => two d.day
  | 'D' | 'x' => some (.pattern "%m/%d/%y".toList)
  | 'e' => some (.number d.day 2 true)
  | 'F' => some (.pattern "%+4Y-%m-%d".toList)
  | 'g' => two (d.week.1 % 100).toNat
  | 'G' => some (.number d.week.1 4 false)
  | 'H' => two m.hour
  | 'I' => two hour12
  | 'j' => some (.number (d.inYear + 1 : Nat) 3 false)
  | 'k' => some (.number m.hour 2 true)
  | 'l' => some (.number hour12 2 true)
  | 'm' => two d.month
  | 'M' => two m.minute
  | 'n' => some (.word "\n")
  | 'N' => some (.nanos m.nanos)
  | 'p' => some (.caption half)
  | 'P' => some (.word (half.map Char.toLower))
  | 'q' => some (.number ((d.month + 2) / 3 : Nat) 1 false)
  | 'r' => some (.pattern "%I:%M:%S %p".toList)
  | 'R' => some (.pattern "%H:%M".toList)
  | 's' => some (.number m.seconds 1 false)
  | 'S' => two m.second
  | 't' => some (.word "\t")
  | 'T' | 'X' => some (.pattern "%H:%M:%S".toList)
  | 'u' => some (.number ((weekday d.number + 6) % 7 + 1 : Nat) 1 false)
  | 'U' => two (d.weekFrom 0)
  | 'V' => two d.week.2
  | 'w' => some (.number (weekday d.number) 1 false)
  | 'W' => two (d.weekFrom 1)
  | 'y' => two (d.year % 100).toNat
  | 'Y' => some (.number d.year 4 false)
  | 'z' => some .offset
  | 'Z' => some (.caption m.zone)
  | '%' => some (.word "%")
  | _ => none

/-- signs in front of a text, as far as it is too short -/
def filled (width : Nat) (sign : Char) (cs : List Char) : List Char :=
  List.replicate (width - cs.length) sign ++ cs

def number (w : Manner) (n : Int) (digits : Nat) (blanks : Bool) : List Char :=
  let shown := Nat.toDigits 10 n.natAbs
  let fill := w.fill.getD (if blanks then '_' else '0')
  let width := w.width.getD 0
  let isLong : Bool := (if digits = 2 then 99 else 9999) < n || digits < width
  let sign : List Char := if n < 0 then ['-'] else if w.fill = some '+' && isLong then ['+'] else []
  let width := max width digits
  if fill = '-' then sign ++ shown
  else if fill = '_' then filled width ' ' (sign ++ shown)
  else sign ++ filled (width - sign.length) '0' shown

def offset (w : Manner) (ahead : Int) : List Char :=
  let n := ahead.natAbs
  let two (n : Nat) : List Char := filled 2 '0' (Nat.toDigits 10 n)
  let hours := two (n / 3600)
  let minutes := two (n / 60 % 60)
  let seconds := two (n % 60)
  let body := match w.colons with
    | 0 => hours ++ minutes
    | 1 => hours ++ ':' :: minutes
    | 2 => hours ++ ':' :: minutes ++ ':' :: seconds
    | _ => hours ++ (if n % 3600 = 0 then [] else ':' :: minutes) ++
        if n % 60 = 0 then [] else ':' :: seconds
  (if ahead < 0 then '-' else '+') :: filled (w.width.getD 0 - 1) '0' body

/-- The signs between a percent sign and its letter, and what follows them. -/
def manner : Nat → Manner → List Char → Manner × List Char
  | 0, w, cs => (w, cs)
  | fuel + 1, w, c :: cs =>
    if (w.width.isNone && w.variant.isNone && w.colons = 0) && "-_0+".toList.contains c then
      manner fuel { w with fill := some c } cs
    else if c = '^' then manner fuel { w with upper := true } cs
    else if c = '#' then manner fuel { w with swapped := true } cs
    else if c.isDigit then
      manner fuel { w with width := some (w.width.getD 0 * 10 + (c.toNat - 48)) } cs
    else if c = ':' && w.colons < 3 then manner fuel { w with colons := w.colons + 1 } cs
    else if (c = 'E' || c = 'O') && w.variant.isNone then
      manner fuel { w with variant := some c } cs
    else (w, c :: cs)
  | _, w, [] => (w, [])

/-- a moment by a pattern, of which `fuel` bounds the parts and the patterns in patterns -/
def shown (m : Moment) : Nat → List Char → List Char
  | 0, _ => []
  | fuel + 1, '%' :: cs =>
    let (w, rest) := manner cs.length {} cs
    let asIs : List Char := '%' :: cs.take (cs.length - rest.length)
    let padded (text : List Char) : List Char :=
      let text := if w.upper then text.map Char.toUpper else text
      match w.fill with
      | some '-' => text
      | some '0' | some '+' => filled (w.width.getD 0) '0' text
      | _ => filled (w.width.getD 0) ' ' text
    match rest with
    | [] => asIs
    | c :: rest =>
      let isFit : Bool := w.variant.all (fun v => (variants v).contains c) &&
        (w.colons = 0 || c = 'z')
      match if isFit then part? m c else none with
      | none => asIs ++ c :: shown m fuel rest
      | some p =>
        let text := match p with
          | .number n digits blanks => number w n digits blanks
          | .word s =>
            padded (if w.swapped then s.toList.map Char.toUpper else s.toList)
          | .caption s =>
            padded (if w.swapped then s.toList.map Char.toLower else s.toList)
          | .nanos n =>
            let digits := filled 9 '0' (Nat.toDigits 10 n)
            match w.width with
            | some width => digits.take width ++ List.replicate (width - 9) '0'
            | none => digits
          | .offset => offset w m.ahead
          | .pattern cs => padded (shown m fuel cs)
        text ++ shown m fuel rest
  | fuel + 1, c :: cs => c :: shown m fuel cs
  | _, [] => []

end Format

/-- a moment by a pattern; octets that are no letters stay as they are -/
def Moment.shown (m : Moment) (pattern : Bytes) : Bytes :=
  (Format.shown m (2 * pattern.length + 24) (pattern.map Char.ofUInt8)).map fun c =>
    c.toNat.toUInt8

end JarLauncher.Calendar
