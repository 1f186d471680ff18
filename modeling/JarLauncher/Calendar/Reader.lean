import JarLauncher.Calendar
import JarLauncher.Utf8

/-! Moments as people write them: days, times, zones, and what is to be added, in any order. What is
not said is as it is now. -/

namespace JarLauncher.Calendar

namespace Reader

/-- what may be added, as so many seconds, days or months -/
inductive Unit_ where
  | seconds (n : Nat)
  | days (n : Nat)
  | months (n : Nat)

inductive Token where
  /-- digits, maybe with a sign, and a fraction in billionths -/
  | number (sign : Option Int) (value digits : Nat) (fraction : Option Nat)
  | half (afternoon : Bool)
  | month (n : Nat)
  | weekday (n : Nat)
  | zone (seconds : Int)
  /-- the letter T, which also stands for a zone -/
  | divider
  | summer
  | unit_ (u : Unit_)
  | ordinal (n : Int)
  | shift (days : Int)
  | direction (n : Int)
  | sign (c : Char)

def units : List (String × Unit_) :=
  [("YEAR", .months 12), ("MONTH", .months 1), ("FORTNIGHT", .days 14), ("WEEK", .days 7),
   ("DAY", .days 1), ("HOUR", .seconds 3600), ("MINUTE", .seconds 60), ("MIN", .seconds 60),
   ("SECOND", .seconds 1), ("SEC", .seconds 1)]

def ordinals : List (String × Token) :=
  [("TOMORROW", .shift 1), ("YESTERDAY", .shift (-1)), ("TODAY", .shift 0), ("NOW", .shift 0),
   ("LAST", .ordinal (-1)), ("THIS", .ordinal 0), ("NEXT", .ordinal 1), ("FIRST", .ordinal 1),
   ("THIRD", .ordinal 3), ("FOURTH", .ordinal 4), ("FIFTH", .ordinal 5), ("SIXTH", .ordinal 6),
   ("SEVENTH", .ordinal 7), ("EIGHTH", .ordinal 8), ("NINTH", .ordinal 9), ("TENTH", .ordinal 10),
   ("ELEVENTH", .ordinal 11), ("TWELFTH", .ordinal 12), ("AGO", .direction (-1)),
   ("HENCE", .direction 1), ("DST", .summer), ("AM", .half false), ("A.M.", .half false),
   ("PM", .half true), ("P.M.", .half true)]

/-- the zones by their names, in minutes -/
def zones : List (String × Int) :=
  [("GMT", 0), ("UT", 0), ("UTC", 0), ("WET", 0), ("WEST", 60), ("BST", 60), ("ART", -180),
   ("BRT", -180), ("BRST", -120), ("NST", -210), ("NDT", -150), ("AST", -240), ("ADT", -180),
   ("CLT", -240), ("CLST", -180), ("EST", -300), ("EDT", -240), ("CST", -360), ("CDT", -300),
   ("MST", -420), ("MDT", -360), ("PST", -480), ("PDT", -420), ("AKST", -540), ("AKDT", -480),
   ("HST", -600), ("HAST", -600), ("HADT", -540), ("SST", -720), ("WAT", 60), ("CET", 60),
   ("CEST", 120), ("MET", 60), ("MEZ", 60), ("MEST", 120), ("MESZ", 120), ("EET", 120),
   ("EEST", 180), ("CAT", 120), ("SAST", 120), ("EAT", 180), ("MSK", 180), ("MSD", 240),
   ("IST", 330), ("SGT", 480), ("KST", 540), ("JST", 540), ("GST", 600), ("NZST", 720),
   ("NZDT", 780)]

/-- the zones by single letters, in hours -/
def letterZone? (c : Char) : Option Int :=
  let east := "ABCDEFGHIKLM".toList
  let west := "NOPQRSTUVWXY".toList
  if c = 'Z' then some 0
  else match east.idxOf? c, west.idxOf? c with
    | some i, _ => some (i + 1)
    | none, some i => some (-(i + 1))
    | none, none => none

/-- the place of a name in a list, which may be cut to three letters -/
def named? (names : List String) (longer : List (String × Nat)) (word : String) : Option Nat :=
  let word := if word.endsWith "." && word.length = 4 then (word.dropEnd 1).toString else word
  match names.findIdx? fun n =>
    let n := n.map Char.toUpper
    n = word || String.ofList (n.toList.take 3) = word with
  | some i => some i
  | none => longer.lookup word

def word? (word : String) : Option Token :=
  let singular := if word.endsWith "S" then (word.dropEnd 1).toString else word
  match named? monthNames [("SEPT", 8)] word with
  | some i => some (.month (i + 1))
  | none =>
    match named? dayNames [("TUES", 2), ("WEDNES", 3), ("THUR", 4), ("THURS", 4)] word with
    | some i => some (.weekday i)
    | none =>
      match zones.lookup word, (units.lookup word <|> units.lookup singular),
          ordinals.lookup word with
      | some minutes, _, _ => some (.zone (minutes * 60))
      | none, some u, _ => some (.unit_ u)
      | none, none, some t => some t
      | none, none, none =>
        match word.toList with
        | ['T'] => some .divider
        | [c] => (letterZone? c).map fun hours => .zone (hours * 3600)
        | _ => none

def digitsOf (cs : List Char) : Nat := cs.foldl (fun n c => n * 10 + (c.toNat - 48)) 0

/-- the digits behind a point in billionths -/
def billionths (cs : List Char) : Nat :=
  digitsOf ((cs ++ List.replicate 9 '0').take 9)

/-- a number at the front -/
def numberAt (sign : Option Int) (cs : List Char) : Token × List Char :=
  let (whole, rest) := cs.span Char.isDigit
  match rest with
  | c :: d :: more =>
    if (c = '.' || c = ',') && d.isDigit then
      let (fraction, rest) := (d :: more).span Char.isDigit
      (.number sign (digitsOf whole) whole.length (some (billionths fraction)), rest)
    else (.number sign (digitsOf whole) whole.length none, rest)
  | _ => (.number sign (digitsOf whole) whole.length none, rest)

/-- what follows a comment, where comments may stand in comments -/
def afterComment : Nat → List Char → List Char
  | _, [] => []
  | depth, ')' :: cs => if depth = 0 then cs else afterComment (depth - 1) cs
  | depth, '(' :: cs => afterComment (depth + 1) cs
  | depth, _ :: cs => afterComment depth cs

def isSpace (c : Char) : Bool := c = ' ' || ('\t' ≤ c && c ≤ '\r')

def tokens? : Nat → List Char → Option (List Token)
  | 0, _ => none
  | _, [] => some []
  | fuel + 1, c :: cs =>
    if isSpace c then tokens? fuel cs
    else if c.isDigit then do
      let (t, rest) := numberAt none (c :: cs)
      return t :: (← tokens? fuel rest)
    else if c = '-' || c = '+' then
      let rest := cs.dropWhile isSpace
      if rest.head?.any Char.isDigit then do
        let (t, rest) := numberAt (some (if c = '-' then -1 else 1)) rest
        return t :: (← tokens? fuel rest)
      else tokens? fuel rest
    else if c.isAlpha then do
      let (word, rest) := (c :: cs).span fun c => c.isAlpha || c = '.'
      return (← word? (String.ofList (word.map Char.toUpper))) :: (← tokens? fuel rest)
    else if c = '(' then tokens? fuel (afterComment 0 cs)
    else do return .sign c :: (← tokens? fuel cs)

/-- what was said so far -/
structure Said where
  year : Int
  month : Nat
  day : Nat
  hour : Nat
  minute : Nat
  second : Nat
  nanos : Nat
  /-- the half of the day that the hour is in -/
  half : Option Bool := none
  zone : Int := 0
  weekday : Nat := 0
  ordinal : Int := 0
  months : Int := 0
  days : Int := 0
  seconds : Int := 0
  moreNanos : Int := 0
  dates : Nat := 0
  times : Nat := 0
  weekdays : Nat := 0
  zones : Nat := 0
  relatives : Bool := false
  /-- the digits of the year, if it was said -/
  yearDigits : Nat := 0

def Said.add (s : Said) (u : Unit_) (n : Int) : Said :=
  let s := { s with relatives := true }
  match u with
  | .seconds k => { s with seconds := s.seconds + n * k }
  | .days k => { s with days := s.days + n * k }
  | .months k => { s with months := s.months + n * k }

def Said.onDay (s : Said) (year : Int) (digits month day : Nat) : Said :=
  let year := if digits = 2 then year + (if year < 69 then 2000 else 1900) else year
  { s with
    year := year, month := month, day := day, dates := s.dates + 1, yearDigits := digits }

def Said.at_ (s : Said) (hour minute second nanos : Nat) (half : Option Bool) : Said :=
  { s with
    hour := hour, minute := minute, second := second, nanos := nanos, half := half,
    times := s.times + 1 }

def Said.inZone (s : Said) (seconds : Int) : Said :=
  { s with zone := seconds, zones := s.zones + 1 }

/-- a number that stands alone: a year, a day in one piece, or a time -/
def Said.number (s : Said) (value digits : Nat) : Said :=
  if s.dates ≠ 0 ∧ s.yearDigits = 0 ∧ !s.relatives ∧ (s.times ≠ 0 ∨ 2 < digits) then
    { s with year := value, yearDigits := digits }
  else if 4 < digits then
    s.onDay (value / 10000 : Nat) (digits - 4) (value / 100 % 100) (value % 100)
  else if digits ≤ 2 then s.at_ value 0 0 0 none
  else s.at_ (value / 100) (value % 100) 0 0 none

/-- A zone as a number says it: hours, hours and minutes, or hours before a colon and minutes. -/
def offset? (sign : Int) (value digits : Nat) : List Token → Option (Int × List Token)
  | .sign ':' :: .number none minutes _ none :: rest => within (value * 60 + minutes) rest
  | rest =>
    let value := if digits ≤ 2 then value * 100 else value
    within (value / 100 * 60 + value % 100) rest
where
  within (minutes : Nat) (rest : List Token) : Option (Int × List Token) :=
    if minutes ≤ 1440 then some (sign * (minutes * 60 : Nat), rest) else none

/-- what follows a time: a half of the day, or a zone -/
def afterTime? (s : Said) (hour minute second nanos : Nat) :
    List Token → Option (Said × List Token)
  | .half afternoon :: rest => some (s.at_ hour minute second nanos (some afternoon), rest)
  | .number (some sign) value digits none :: rest => do
    let (zone, rest) ← offset? sign value digits rest
    return ((s.at_ hour minute second nanos none).inZone zone, rest)
  | rest => some (s.at_ hour minute second nanos none, rest)

/-- the time that begins with an hour -/
def time? (s : Said) (hour : Nat) : List Token → Option (Said × List Token)
  | .number none minute _ none :: .sign ':' :: .number none second _ fraction :: rest =>
    afterTime? s hour minute second (fraction.getD 0) rest
  | .number none minute _ none :: rest => afterTime? s hour minute 0 0 rest
  | _ => none

/-- what is to be added, or to be taken away if it was long ago -/
def relative (s : Said) (u : Unit_) (n : Int) : List Token → Said × List Token
  | .direction d :: rest => (s.add u (n * d), rest)
  | rest => (s.add u n, rest)

/-- what begins with a number without a sign -/
def afterNumber? (s : Said) (n digits : Nat) : List Token → Option (Said × List Token)
  | .half afternoon :: rest => some (s.at_ n 0 0 0 (some afternoon), rest)
  | .sign ':' :: rest => time? s n rest
  | .sign '/' :: .number none b _ none :: .sign '/' :: .number none c digits' none :: rest =>
    some (if 4 ≤ digits then s.onDay n digits b c else s.onDay c digits' n b, rest)
  | .sign '/' :: .number none b _ none :: rest =>
    some ({ s with month := n, day := b, dates := s.dates + 1 }, rest)
  | .month m :: .number (some (-1)) y digits' none :: rest => some (s.onDay y digits' m n, rest)
  | .month m :: .number none y digits' none :: rest => some (s.onDay y digits' m n, rest)
  | .month m :: rest => some ({ s with month := m, day := n, dates := s.dates + 1 }, rest)
  | .number (some (-1)) m _ none :: .number (some (-1)) d _ none :: rest =>
    let s := s.onDay n digits m d
    match rest with
    | .divider :: .number none hour _ none :: .sign ':' :: rest => time? s hour rest
    | .divider :: .number none hour _ none :: .number (some sign) value digits' none :: rest => do
      let (zone, rest) ← offset? sign value digits' rest
      return ((s.at_ hour 0 0 0 none).inZone zone, rest)
    | .divider :: _ => none
    | rest => some (s, rest)
  | .weekday d :: rest =>
    some ({ s with weekday := d, ordinal := n, weekdays := s.weekdays + 1 }, rest)
  | .unit_ u :: rest => some (relative s u n rest)
  | .number (some sign) value _ none :: .unit_ u :: rest =>
    some (relative (s.number n digits) u (sign * value) rest)
  | .number (some sign) value digits' none :: rest => do
    let (zone, rest) ← offset? sign value digits' rest
    return ((s.at_ n 0 0 0 none).inZone zone, rest)
  | rest => some (s.number n digits, rest)

/-- what follows a zone -/
def afterZone? (s : Said) (zone : Int) : List Token → Option (Said × List Token)
  | .number (some sign) value _ none :: .unit_ u :: rest =>
    some (relative (s.inZone zone) u (sign * value) rest)
  | .number (some sign) value digits none :: rest => do
    let (more, rest) ← offset? sign value digits rest
    return (s.inZone (zone + more), rest)
  | .summer :: rest => some (s.inZone (zone + 3600), rest)
  | rest => some (s.inZone zone, rest)

/-- how far away the zone of the divider is -/
def dividerZone : Int := -7 * 3600

/-- one thing that is said -/
def item? (s : Said) : List Token → Option (Said × List Token)
  | .number none n digits none :: rest => afterNumber? s n digits rest
  | .number sign n _ (some fraction) :: .unit_ (.seconds 1) :: rest =>
    let sign := sign.getD 1
    let s := { s with moreNanos := s.moreNanos + sign * fraction }
    some (relative s (.seconds 1) (sign * n) rest)
  | .number (some sign) n _ none :: .unit_ u :: rest => some (relative s u (sign * n) rest)
  | .month m :: .number (some (-1)) d _ none :: .number (some (-1)) y digits none :: rest =>
    some (s.onDay y digits m d, rest)
  | .month m :: .number none d _ none :: .sign ',' :: .number none y digits none :: rest =>
    some (s.onDay y digits m d, rest)
  | .month m :: .number none d _ none :: rest =>
    some ({ s with month := m, day := d, dates := s.dates + 1 }, rest)
  | .weekday d :: .sign ',' :: rest | .weekday d :: rest =>
    some ({ s with weekday := d, ordinal := 0, weekdays := s.weekdays + 1 }, rest)
  | .ordinal n :: .weekday d :: rest =>
    some ({ s with weekday := d, ordinal := n, weekdays := s.weekdays + 1 }, rest)
  | .ordinal n :: .unit_ u :: rest => some (relative s u n rest)
  | .unit_ u :: rest => some (relative s u 1 rest)
  | .zone z :: rest => afterZone? s z rest
  | .divider :: rest => afterZone? s dividerZone rest
  | .shift days :: rest => some (s.add (.days 1) days, rest)
  | _ => none

def items? : Nat → Said → List Token → Option Said
  | _, s, [] => some s
  | 0, _, _ => none
  | fuel + 1, s, ts => do
    let (s, rest) ← item? s ts
    items? fuel s rest

/-- the hour of the day, by its half -/
def Said.hour? (s : Said) : Option Nat :=
  match s.half with
  | none => if s.hour < 24 then some s.hour else none
  | some afternoon =>
    if s.hour = 0 ∨ 12 < s.hour then none
    else some (s.hour % 12 + if afternoon then 12 else 0)

/-- the seconds and billionths that all of it comes to; `ahead` is how far the clock is ahead -/
def Said.moment? (s : Said) (ahead : Int) : Option (Int × Nat) := do
  if 1 < s.times ∨ 1 < s.dates ∨ 1 < s.weekdays ∨ 1 < s.zones then none
  let isTimed : Bool := s.times ≠ 0 || (s.relatives && s.dates = 0 && s.weekdays = 0)
  let (hour, minute, second, nanos) ←
    if isTimed then pure (← s.hour?, s.minute, s.second, s.nanos) else pure (0, 0, 0, 0)
  if s.month = 0 ∨ 12 < s.month ∨ s.day = 0 ∨ monthLength s.year s.month < s.day ∨ 59 < minute ∨
      59 < second then none
  let day := (⟨s.year, s.month, s.day⟩ : Day).number
  let day := if s.weekdays = 0 ∨ s.dates ≠ 0 then day
    else
      let today := Calendar.weekday day
      day + ((s.weekday + 7 - today) % 7 : Nat) +
        7 * (s.ordinal - if 0 < s.ordinal ∧ today ≠ s.weekday then 1 else 0)
  let day := if s.months = 0 then day
    else
      let d := Day.ofNumber day
      let months := d.year * 12 + (d.month - 1 : Nat) + s.months
      (⟨Int.fdiv months 12, (months % 12).toNat + 1, d.day⟩ : Day).number
  let ahead := if s.zones = 0 then ahead else s.zone
  let seconds := (day + s.days) * daySeconds + (hour * 3600 + minute * 60 + second : Nat) - ahead
  let nanos := (nanos : Int) + s.moreNanos
  return (seconds + s.seconds + Int.fdiv nanos 1000000000, (nanos % 1000000000).toNat)

/-- a count of seconds -/
def count? (ts : List Token) : Option (Int × Nat) :=
  match ts with
  | [.number sign n _ fraction] =>
    let fraction := fraction.getD 0
    if sign = some (-1) then
      if fraction = 0 then some (-n, 0) else some (-n - 1, 1000000000 - fraction)
    else some (n, fraction)
  | _ => none

end Reader

/-- the seconds and billionths of the moment that a text says, which is read at another moment -/
def read? (now : Moment) (bs : Bytes) : Option (Int × Nat) := do
  let cs := bs.map Char.ofUInt8
  match ← Reader.tokens? (cs.length + 1) cs with
  | .sign '@' :: ts => Reader.count? ts
  | ts =>
    let start : Reader.Said :=
      { year := now.date.year, month := now.date.month, day := now.date.day, hour := now.hour,
        minute := now.minute, second := now.second, nanos := now.nanos }
    (← Reader.items? (ts.length + 1) start ts).moment? now.ahead

end JarLauncher.Calendar
