/-! Days and times of day. Days are counted from the first of 1970, seconds from its beginning;
years are those of the Gregorian calendar, also before it began. -/

namespace JarLauncher.Calendar

/-- a day by the calendar -/
structure Day where
  year : Int
  month : Nat
  day : Nat
  deriving DecidableEq

/-- days before each month of a year that begins in March -/
def marchDays (month : Nat) : Nat := (153 * month + 2) / 5

/-- the days of four hundred years, after which the calendar repeats -/
def eraDays : Nat := 146097

/-- the days from the first of March of the year 0 to the first of 1970 -/
def epochDays : Nat := 719468

def isLeap (year : Int) : Bool := year % 4 = 0 && (year % 100 ≠ 0 || year % 400 = 0)

def monthLength (year : Int) (month : Nat) : Nat :=
  if month = 2 then if isLeap year then 29 else 28
  else if month = 4 ∨ month = 6 ∨ month = 9 ∨ month = 11 then 30 else 31

/-- The number of a day. A month or a day that is too great goes on into what follows. -/
def Day.number (d : Day) : Int :=
  let year := d.year + ((d.month - 1) / 12 : Nat)
  let month := (d.month - 1) % 12 + 1
  let year := if month ≤ 2 then year - 1 else year
  let era := Int.fdiv year 400
  let inEra := (year - era * 400).toNat
  let inYear := marchDays ((month + 9) % 12)
  era * eraDays + (inEra * 365 + inEra / 4 - inEra / 100 + inYear : Nat) + d.day - 1 - epochDays

/-- the day with a number -/
def Day.ofNumber (n : Int) : Day :=
  let n := n + epochDays
  let era := Int.fdiv n eraDays
  let inEra := (n - era * eraDays).toNat
  let year := (inEra - inEra / 1460 + inEra / 36524 - inEra / 146096) / 365
  let inYear := inEra - (365 * year + year / 4 - year / 100)
  let month := (5 * inYear + 2) / 153
  let day := inYear - marchDays month + 1
  let year : Int := year + era * 400
  if month < 10 then ⟨year, month + 3, day⟩ else ⟨year + 1, month - 9, day⟩

/-- the day of the week, where 0 is Sunday -/
def weekday (number : Int) : Nat := ((number + 4) % 7).toNat

/-- how many days of its year come before a day -/
def Day.inYear (d : Day) : Nat := (d.number - (⟨d.year, 1, 1⟩ : Day).number).toNat

/-- a moment by the calendar and the clock -/
structure Moment where
  date : Day
  hour : Nat
  minute : Nat
  second : Nat
  nanos : Nat
  /-- how many seconds the clock is ahead of the one that the seconds are counted by -/
  ahead : Int
  /-- what that clock is called -/
  zone : String

def daySeconds : Nat := 86400

/-- the moment after so many seconds, by a clock -/
def Moment.ofSeconds (seconds : Int) (nanos : Nat) (ahead : Int) (zone : String) : Moment :=
  let total := seconds + ahead
  let inDay := (total % daySeconds).toNat
  { date := Day.ofNumber (Int.fdiv total daySeconds)
    hour := inDay / 3600
    minute := inDay / 60 % 60
    second := inDay % 60
    nanos := nanos
    ahead := ahead
    zone := zone }

def Moment.seconds (m : Moment) : Int :=
  m.date.number * daySeconds + (m.hour * 3600 + m.minute * 60 + m.second : Nat) - m.ahead

def dayNames : List String :=
  ["Sunday", "Monday", "Tuesday", "Wednesday", "Thursday", "Friday", "Saturday"]

def monthNames : List String :=
  ["January", "February", "March", "April", "May", "June", "July", "August", "September", "October",
   "November", "December"]

def Day.weekdayName (d : Day) : String := dayNames.getD (weekday d.number) ""

def Day.monthName (d : Day) : String := monthNames.getD (d.month - 1) ""

/-- The year and the number of the week that a day belongs to, where weeks begin on Monday and the
first of a year is the one with its first Thursday. -/
def Day.week (d : Day) : Int × Nat :=
  let fromMonday := (weekday d.number + 6) % 7
  let thursday := Day.ofNumber (d.number - fromMonday + 3)
  (thursday.year, thursday.inYear / 7 + 1)

/-- the number of the week in the year, where weeks begin on a day and those before the first are
0 -/
def Day.weekFrom (first : Nat) (d : Day) : Nat :=
  (d.inYear + 7 - (weekday d.number + 7 - first) % 7) / 7

end JarLauncher.Calendar
