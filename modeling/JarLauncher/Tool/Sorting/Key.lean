import JarLauncher.Tool.Count
import JarLauncher.Tool.Input
import JarLauncher.Tool.Option
import JarLauncher.Tool.Sorting.Order

/-! Keys: the parts of lines that they are compared by, from a field and an octet to another. -/

namespace JarLauncher.Tool.Sorting

open Shell (text newline)

/-- an end of a key: a field, and an octet in it -/
structure Corner where
  field : Nat
  octet : Nat

structure Key where
  start : Corner
  stop : Option Corner
  manner : Manner
  /-- it has letters of its own -/
  own : Bool

structure Choice where
  manner : Manner := {}
  keys : List Key := []
  separator : Option UInt8 := none
  unique : Bool := false
  stable : Bool := false
  /-- lines are only looked at: whether a complaint is made of the first out of order -/
  check : Option Bool := none
  merges : Bool := false
  output : Option Bytes := none
  /-- a file that names the inputs -/
  list : Option Bytes := none
  ending : UInt8 := newline

/-- what is left of a line after one field and what parts it from the next -/
def afterField (separator : Option UInt8) (bs : Bytes) : Bytes :=
  match separator with
  | some b => (bs.dropWhile (· ≠ b)).drop 1
  | none => (bs.dropWhile isBlank).dropWhile fun b => !isBlank b

def afterFields (separator : Option UInt8) : Nat → Bytes → Bytes
  | 0, bs => bs
  | _, [] => []
  | n + 1, bs => afterFields separator n (afterField separator bs)

def startOf (separator : Option UInt8) (k : Key) (line : Bytes) : Nat :=
  let rest := afterFields separator (k.start.field - 1) line
  let rest := if k.manner.skipsBlanks then rest.dropWhile isBlank else rest
  line.length - (rest.drop (k.start.octet - 1)).length

def stopOf (separator : Option UInt8) (k : Key) (line : Bytes) : Nat :=
  match k.stop with
  | none => line.length
  | some c =>
    if c.octet = 0 then
      let before := afterFields separator (c.field - 1) line
      match separator with
      | some b => line.length - (before.dropWhile (· ≠ b)).length
      | none => line.length - ((before.dropWhile isBlank).dropWhile fun b => !isBlank b).length
    else
      let rest := afterFields separator (c.field - 1) line
      let rest := if k.manner.skipsBlanksAtEnd then rest.dropWhile isBlank else rest
      line.length - (rest.drop c.octet).length

def piece (separator : Option UInt8) (k : Key) (line : Bytes) : Bytes :=
  let start := startOf separator k line
  (line.take (stopOf separator k line)).drop start

/-- the keys that lines are compared by -/
def Choice.keysUsed (c : Choice) : List Key :=
  if c.keys.isEmpty then
    if { c.manner with reversed := false } = { : Manner } then []
    else [⟨⟨1, 1⟩, none, c.manner, true⟩]
  else c.keys.map fun k => if k.own then k else { k with manner := c.manner }

/-- the pieces of a line that its keys pick -/
def Choice.pieces (c : Choice) (line : Bytes) : List Bytes :=
  c.keysUsed.map fun k => piece c.separator k line

/-- a line with the pieces that it is compared by -/
abbrev Held := Bytes × List Bytes

def Choice.hold (c : Choice) (line : Bytes) : Held := (line, c.pieces line)

def comparePieces : List Manner → List Bytes → List Bytes → Ordering
  | m :: ms, a :: as, b :: bs => match compareBy m a b with
    | .eq => comparePieces ms as bs
    | o => o
  | _, _, _ => .eq

def Choice.compare (c : Choice) (a b : Held) : Ordering :=
  let keys := c.keysUsed
  let o := comparePieces (keys.map Key.manner) a.2 b.2
  if o ≠ .eq then o
  else if !keys.isEmpty && (c.stable || c.unique) then .eq
  else
    let o := compareOctets a.1 b.1
    if c.manner.reversed then o.swap else o

/-- the kind of comparison that a letter asks for -/
def kind? (c : Char) : Option Kind :=
  match c with
  | 'g' => some .general
  | 'h' => some .sized
  | 'M' => some .month
  | 'n' => some .number
  | 'V' => some .version
  | _ => none

/-- the letters that say how to compare -/
def letter? (m : Manner) (ofEnd : Bool) (c : Char) : Option Manner :=
  match c with
  | 'b' => some (if ofEnd then { m with skipsBlanksAtEnd := true }
      else { m with skipsBlanks := true })
  | 'd' => some { m with onlyWords := true }
  | 'f' => some { m with folds := true }
  | 'i' => some { m with onlyPrintable := true }
  | 'r' => some { m with reversed := true }
  | 'R' => some { m with shuffled := true }
  | c => (kind? c).map fun k => { m with
      kinds := if m.kinds.contains k then m.kinds else m.kinds ++ [k] }

/-- the letters of a manner that cannot stand together, if there are such -/
def Manner.clash? (m : Manner) : Option String :=
  let special := m.kinds.filter (· ≠ .version)
  let other := m.kinds.contains .version || m.shuffled || m.onlyWords || m.onlyPrintable
  if special.length + (if other then 1 else 0) ≤ 1 then none
  else
    let on (c : Char) (b : Bool) : List Char := if b then [c] else []
    some (String.ofList (on 'd' m.onlyWords ++ on 'f' m.folds ++
      on 'g' (m.kinds.contains .general) ++ on 'h' (m.kinds.contains .sized) ++
      on 'i' (m.onlyPrintable && !m.onlyWords) ++ on 'M' (m.kinds.contains .month) ++
      on 'n' (m.kinds.contains .number) ++ on 'R' m.shuffled ++
      on 'V' (m.kinds.contains .version)))

/-- one end of a key: a field, maybe an octet, and letters -/
def corner? (ofEnd : Bool) (m : Manner) (bs : Bytes) : Work (Corner × Manner × Bytes) := do
  let (field, rest) := bs.span Shell.isDigit
  if field = [] then
    Work.fail [text "invalid number ", text (if ofEnd then "after ','" else "at field start"),
      text ": invalid count at start of ", Quoting.plain bs]
  let (octet, rest) := match rest with
    | 46 :: more => (some (more.takeWhile Shell.isDigit), more.dropWhile Shell.isDigit)
    | _ => (none, rest)
  if octet = some [] then
    Work.fail [text "invalid number after '.': invalid count at start of ",
      Quoting.plain (rest)]
  let octet := octet.map Shell.natOf
  return (⟨Shell.natOf field, octet.getD (if ofEnd then 0 else 1)⟩, m, rest)

/-- letters that say how to compare, and what is behind them -/
def lettersFrom (ofEnd : Bool) (m : Manner) : Bytes → Manner × Bytes
  | [] => (m, [])
  | b :: rest => match letter? m ofEnd (Shell.chr b) with
    | some m => lettersFrom ofEnd m rest
    | none => (m, b :: rest)

def keyOf (bs : Bytes) : Work Key := do
  let invalid (why : String) : Work Unit :=
    Work.fail [text (why ++ ": invalid field specification "), Quoting.plain bs]
  let (start, m, rest) ← corner? false {} bs
  if start.field = 0 then invalid "field number is zero"
  if start.octet = 0 then invalid "character offset is zero"
  let (m, rest) := lettersFrom false m rest
  let (stop, m, rest) ← match rest with
    | 44 :: more => do
      let (stop, m, rest) ← corner? true m more
      if stop.field = 0 then invalid "field number is zero"
      let (m, rest) := lettersFrom true m rest
      pure (some stop, m, rest)
    | _ => pure (none, m, rest)
  if rest ≠ [] then invalid "stray character in field spec"
  return ⟨start, stop, m, m ≠ {}⟩

/-- the first of each run of lines that are the same -/
def Choice.firsts (c : Choice) : List Held → List Held
  | [] => []
  | a :: rest => a :: go a rest
where
  go (last : Held) : List Held → List Held
    | [] => []
    | b :: rest => if c.compare last b = .eq then go last rest else b :: go b rest

def Choice.sorted (c : Choice) (lines : List Bytes) : List Bytes :=
  let ls := (lines.map c.hold).mergeSort fun a b => c.compare a b ≠ .gt
  (if c.unique then c.firsts ls else ls).map Prod.fst

/-- the first of several lists whose head comes first, as its head and all lists without it -/
def Choice.least? (c : Choice) : List (List Held) → Option (Held × List (List Held))
  | [] => none
  | [] :: more => (c.least? more).map fun (x, rest) => (x, [] :: rest)
  | (a :: as) :: more =>
    match c.least? more with
    | none => some (a, as :: more)
    | some (x, rest) => if c.compare a x = .gt then some (x, (a :: as) :: rest)
      else some (a, as :: more)

def Choice.mergeFrom (c : Choice) : Nat → List (List Held) → List Held
  | 0, _ => []
  | fuel + 1, lists =>
    match c.least? lists with
    | none => []
    | some (x, lists) => x :: mergeFrom c fuel lists

/-- lists that are in order already as one -/
def Choice.merged (c : Choice) (lists : List (List Bytes)) : List Bytes :=
  let all := c.mergeFrom ((lists.map List.length).foldl (· + ·) 1) (lists.map (·.map c.hold))
  (if c.unique then c.firsts all else all).map Prod.fst

end JarLauncher.Tool.Sorting
