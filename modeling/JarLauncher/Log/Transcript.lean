import JarLauncher.Log.Event
import JarLauncher.Utf8

/-! What a reader finds on standard error: log lines, which start with the time of their writing,
and other lines. Log lines may be coloured; the colours are no part of what they say. -/

namespace JarLauncher.Log

/-- lines told apart; the log lines are without their times -/
structure Transcript where
  log : List String
  others : List String
  deriving DecidableEq

namespace Transcript

/-- how a time is written, where a zero stands for any digit -/
def stampShape : List Char := "0000-00-00T00:00:00.000000Z ".toList

def isDigit (c : Char) : Bool := '0' ≤ c && c ≤ '9'

def fits (shape c : Char) : Bool := if shape = '0' then isDigit c else shape = c

/-- what follows a time, if there is one in front -/
def afterStamp? (shape : List Char) (cs : List Char) : Option (List Char) :=
  match shape, cs with
  | [], cs => some cs
  | s :: shape, c :: cs => if fits s c then afterStamp? shape cs else none
  | _ :: _, [] => none

/-- what follows the sequence that chooses a colour, after its escape character -/
def afterColour? (cs : List Char) : Option (List Char) :=
  match cs with
  | '[' :: rest =>
    match rest.dropWhile fun c => isDigit c || c = ';' with
    | 'm' :: rest => some rest
    | _ => none
  | _ => none

/-- a line without its colours; `fuel` bounds its characters -/
def plainFrom : Nat → List Char → List Char
  | 0, cs => cs
  | _, [] => []
  | fuel + 1, c :: cs =>
    if c = '\x1b' then
      match afterColour? cs with
      | some rest => plainFrom fuel rest
      | none => c :: plainFrom fuel cs
    else c :: plainFrom fuel cs

def plain (cs : List Char) : List Char := plainFrom cs.length cs

/-- the text of a line if it is a log line -/
def logText? (line : List Char) : Option (List Char) :=
  (afterStamp? stampShape (plain line)).map fun cs => cs.dropWhile Char.isWhitespace

/-- a line without the return at its end -/
def withoutReturn (line : List Char) : List Char :=
  if line.getLast? = some '\r' then line.dropLast else line

/-- the lines of a text; a return in front of a line's end belongs to the end -/
def lines (cs : List Char) : List (List Char) :=
  let parts := cs.splitOn '\n'
  let ended := parts.dropLast.map withoutReturn
  match parts.getLast? with
  | some [] | none => ended
  | some last => ended ++ [last]

/-- one line more -/
def add (t : Transcript) (line : List Char) : Transcript :=
  match logText? line with
  | some cs => { t with log := t.log ++ [String.ofList cs] }
  | none => { t with others := t.others ++ [String.ofList line] }

def ofOctets (bs : Bytes) : Transcript := (lines (Utf8.lossy bs).toList).foldl add ⟨[], []⟩

/-- a number in so many digits -/
def digits (count n : Nat) : String :=
  String.ofList ((List.range count).reverse.map fun i => Nat.digitChar (n / Nat.pow 10 i % 10))

/-- a time of the first day, by the microseconds since its start -/
def stamp (micros : Nat) : String :=
  let seconds := micros / 1000000
  "1970-01-01T" ++ digits 2 (seconds / 3600 % 24) ++ ":" ++ digits 2 (seconds / 60 % 60) ++ ":" ++
    digits 2 (seconds % 60) ++ "." ++ digits 6 micros ++ "Z "

/-- an event as it is written at a time -/
def write (micros : Nat) (e : Event) : Bytes := Utf8.encode (stamp micros ++ e.line ++ "\n")

end Transcript
end JarLauncher.Log
