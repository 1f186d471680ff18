import JarLauncher.Log.Event
import JarLauncher.Log.FieldPattern

/-! Log filters as programs are built with them: comma-separated directives, each a level, or a
target with a level, or one of these with a condition on spans or on fields. Of the directives that
fit an event, the one with the longest target and the most fields decides whether the event shows.
What is said of a run holds with any other reading of its setting in their place. -/

namespace JarLauncher.Log

inductive Level where
  | off | error | warn | info | debug | trace
  deriving DecidableEq, Repr

namespace Level

def rank : Level → Nat
  | off => 0
  | error => 1
  | warn => 2
  | info => 3
  | debug => 4
  | trace => 5

/-- events are logged at level debug -/
def showsDebug (l : Level) : Bool := debug.rank ≤ l.rank

def byName : List (String × Level) :=
  [("off", off), ("error", error), ("warn", warn), ("info", info), ("debug", debug),
   ("trace", trace)]

def byNumber : List Level := [off, error, warn, info, debug, trace]

def digitValue (n : Nat) (c : Char) : Nat := n * 10 + (c.toNat - '0'.toNat)

/-- a level by its name in any case, or by its number -/
def ofText? (text : List Char) : Option Level :=
  let digits := if text.head? = some '+' then text.tail else text
  if digits ≠ [] ∧ digits.all Char.isDigit then byNumber[digits.foldl digitValue 0]?
  else byName.lookup (String.ofList (text.map Char.toLower))

end Level

/-- which events a directive is about, and the level from which it shows them -/
structure Directive where
  /-- what the targets of the events start with -/
  target : Option (List Char)
  /-- a field that the events have -/
  field : Option (List Char)
  /-- it is about spans, or about values in them; no event of the launcher is in a span -/
  inSpans : Bool
  level : Level
  deriving DecidableEq

abbrev Filter := List Directive

def splitAt (sep : Char) (text : List Char) : List (List Char) :=
  text.foldr (fun c parts =>
    if c = sep then [] :: parts
    else match parts with
      | p :: ps => (c :: p) :: ps
      | [] => [[c]]) [[]]

def trim (text : List Char) : List Char :=
  ((text.dropWhile Text.isBlank).reverse.dropWhile Text.isBlank).reverse

/-- why a text is no filter -/
inductive Fault where
  | malformed
  /-- a directive is cut inside of a character -/
  | torn
  deriving DecidableEq

/-- the text from octet `n` on -/
def dropOctets (n : Nat) (text : List Char) : Except Fault (List Char) :=
  match n, text with
  | 0, text => .ok text
  | _ + 1, [] => .error .torn
  | n + 1, c :: cs =>
    if c.utf8Size ≤ n + 1 then dropOctets (n + 1 - c.utf8Size) cs else .error .torn
termination_by structural text

/-- the first `n` octets of the text -/
def takeOctets (n : Nat) (text : List Char) : Except Fault (List Char) :=
  match n, text with
  | 0, _ => .ok []
  | _ + 1, [] => .error .torn
  | n + 1, c :: cs =>
    if c.utf8Size ≤ n + 1 then (takeOctets (n + 1 - c.utf8Size) cs).map (c :: ·)
    else .error .torn
termination_by structural text

/-- the octets of the text from `start` on up to `stop` -/
def cut (text : List Char) (start stop : Nat) : Except Fault (List Char) := do
  takeOctets (stop - start) (← dropOctets start text)

namespace Directive

/-- what a directive is read as until more is known -/
def unread : Directive := ⟨none, none, false, .trace⟩

/-- how far a directive was read; the numbers say where the part that is being read starts -/
inductive Stage where
  | start
  | levelOrTarget
  | span (start : Nat)
  | field (start : Nat)
  | afterFields
  | afterSpan
  | level (start : Nat)
  deriving DecidableEq

def opensName (c : Char) : Bool := Text.isAlphanumeric c || c = '-' || c = ':' || c = '_'

/-- an absent level means all -/
def levelOf (text : List Char) : Except Fault Level :=
  if text = [] then .ok .trace
  else match Level.ofText? text with
    | some l => .ok l
    | none => .error .malformed

/-- a condition on a field: its name, or its name and a value -/
def onField (d : Directive) (text : List Char) : Except Fault Directive :=
  match splitAt '=' text with
  | [] | [[]] => .error .malformed
  | [name] => .ok { d with field := some name }
  | name :: value :: _ =>
    if FieldPattern.isValue value then .ok { d with field := some name, inSpans := true }
    else .error .malformed

/-- one character more, at octet `i` of the directive without its outer blanks -/
def next (text : List Char) (d : Directive) (stage : Stage) (i : Nat) (c : Char) :
    Except Fault (Directive × Stage) :=
  match stage with
  | .start =>
    if c = '[' then .ok (d, .span (i + 1))
    else if opensName c then .ok (d, .levelOrTarget)
    else .error .malformed
  | .levelOrTarget =>
    if c = '=' then return ({ d with target := some (← cut text 0 i) }, .level (i + 1))
    else if c = '[' then return ({ d with target := some (← cut text 0 i) }, .span (i + 1))
    else .ok (d, stage)
  | .span start =>
    if c = ']' then do
      let _ ← cut text start i
      return ({ d with inSpans := true }, .afterSpan)
    else if c = '\x7b' then
      return ({ d with inSpans := (← cut text start i) ≠ [] }, .field (i + 1))
    else .ok (d, stage)
  | .field start =>
    if c = '\x7d' then return (← d.onField (← cut text start i), .afterFields) else .ok (d, stage)
  | .afterFields => if c = ']' then .ok (d, .afterSpan) else .error .malformed
  | .afterSpan => if c = '=' then .ok (d, .level (i + 1)) else .error .malformed
  | .level _ => .ok (d, stage)

def readFrom (text : List Char) (d : Directive) (stage : Stage) (i : Nat) :
    List Char → Except Fault (Directive × Stage)
  | [] => .ok (d, stage)
  | c :: cs => do
    let (d, stage) ← next text d stage i c
    readFrom text d stage (i + c.utf8Size) cs

/-- A directive is measured without its outer blanks and cut from the text with them, so a blank
before it shifts its parts, and one after it belongs to the last of them. -/
def parse (text : List Char) : Except Fault Directive := do
  let (d, stage) ← readFrom text unread .start 0 (trim text)
  match stage with
  | .levelOrTarget =>
    match Level.ofText? text with
    | some l => return { d with level := l }
    | none => return { d with target := some text }
  | .level start => return { d with level := ← levelOf (← dropOctets start text) }
  | .afterSpan => return d
  | _ => throw .malformed

def octetCount (text : List Char) : Nat := text.foldl (fun n c => n + c.utf8Size) 0

/-- how closely a directive is about an event -/
structure Fit where
  /-- the octets of its target and one more, or 0 without a target -/
  target : Nat
  field : Option (List Char)
  deriving DecidableEq

def fit? (d : Directive) (e : Event) : Option Fit :=
  let about : Bool :=
    !d.inSpans && (d.target.all fun name => name.isPrefixOf e.target.toList) &&
      d.field.all fun name => e.fieldNames.contains (String.ofList name)
  if about then some ⟨(d.target.map (octetCount · + 1)).getD 0, d.field⟩ else none

/-- A closer fit has the longer target; of two with one target, it has a field, or the field that
is later in the order of letters. -/
def Fit.isCloser (a b : Fit) : Bool :=
  if a.target = b.target then
    match a.field, b.field with
    | some x, some y => decide (String.ofList y < String.ofList x)
    | some _, none => true
    | none, _ => false
  else decide (b.target < a.target)

end Directive

namespace Filter

/-- a filter text -/
def parse (text : String) : Except Fault Filter :=
  ((splitAt ',' text.toList).filter (· ≠ [])).mapM Directive.parse

/-- the directive that fits the event most closely; the later of two that fit alike -/
def deciding (f : Filter) (e : Event) : Option (Directive.Fit × Level) :=
  f.foldl (fun best d =>
    match d.fit? e, best with
    | none, _ => best
    | some fit, none => some (fit, d.level)
    | some fit, some (closest, level) =>
      if closest.isCloser fit then some (closest, level) else some (fit, d.level)) none

def shows (f : Filter) (e : Event) : Bool :=
  match f.deciding e with
  | some (_, level) => level.showsDebug
  | none => false

end Filter
end JarLauncher.Log
