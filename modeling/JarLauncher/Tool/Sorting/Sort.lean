import JarLauncher.Tool.Sorting.Key

/-! Lines in order: sorted, put together from lists that are in order, or only looked at. -/

namespace JarLauncher.Tool

open Unix
open Shell (text newline)

namespace Sorting

def menu : Menu :=
  { letters := "bcCdfghik:mMno:rRsS:t:T:uVy:z"
    words := [flag "ignore-leading-blanks" 'b', ⟨"check", .optional, '!'⟩,
      valued "compress-program" 'T', flag "debug" 'D', flag "dictionary-order" 'd',
      flag "ignore-case" 'f', valued "files0-from" 'F', flag "general-numeric-sort" 'g',
      flag "ignore-nonprinting" 'i', valued "key" 'k', flag "merge" 'm', flag "month-sort" 'M',
      flag "numeric-sort" 'n', flag "human-numeric-sort" 'h', flag "version-sort" 'V',
      flag "random-sort" 'R', valued "random-source" 'T', valued "sort" '=', valued "output" 'o',
      flag "reverse" 'r', flag "stable" 's', valued "batch-size" 'B', valued "buffer-size" 'S',
      valued "field-separator" 't', valued "temporary-directory" 'T', flag "unique" 'u',
      flag "zero-terminated" 'z', valued "parallel" 'P'] }

/-- the letters of the orders that are asked for by a word -/
def orders : List (String × Char) :=
  [("general-numeric", 'g'), ("human-numeric", 'h'), ("month", 'M'), ("numeric", 'n'),
   ("random", 'R'), ("version", 'V')]

/-- a number in the value of a longer option -/
def numberOption (name : String) (value : Bytes) : Work Nat := do
  match Shell.natOf? value with
  | some n => return n
  | none => Work.fail [text ("invalid --" ++ name ++ " argument "), Quoting.plain value]

def setOrder (c : Choice) (letter : Char) : Choice :=
  let manner := (letter? c.manner false letter).getD c.manner
  { c with manner := if letter = 'b' then { manner with skipsBlanksAtEnd := true } else manner }

def setCheck (c : Choice) (shows : Bool) : Work Choice := do
  if c.check.any (· ≠ shows) then Work.fail [text "options '-cC' are incompatible"]
  return { c with check := some shows }

def setSeparator (c : Choice) (value : Bytes) : Work Choice := do
  let b ← match value with
    | [] => Work.fail [text "empty tab"]
    | [b] => pure b
    | [92, 48] => pure 0
    | _ => Work.fail [text "multi-character tab ", Quoting.plain value]
  if c.separator.any (· ≠ b) then Work.fail [text "incompatible tabs"]
  return { c with separator := some b }

def checkSize (value : Bytes) : Work Unit := do
  let (digits, unit) := value.span Shell.isDigit
  if digits = [] then Work.fail [text "invalid -S argument ", Quoting.plain value]
  if unit ≠ [] ∧ unit ≠ [37] ∧ (Count.unit? "bEgGkKmMPQRtTYZ" unit).isNone then
    Work.fail [text "invalid suffix in -S argument ", Quoting.plain value]

/-- the end when a word is none of those that are meant -/
def strayed {α : Type} : Work α := do
  modify fun d => { d with failure := 1 }
  Work.usage

def take (c : Choice) (g : Given) : Work Choice := do
  let value := g.value.getD []
  match g.letter with
  | 'k' => return { c with keys := c.keys ++ [← keyOf value] }
  | 'o' =>
    if c.output.any (· ≠ value) then Work.fail [text "multiple output files specified"]
    return { c with output := some value }
  | 's' => return { c with stable := true }
  | 'u' => return { c with unique := true }
  | 'z' => return { c with ending := 0 }
  | 'm' => return { c with merges := true }
  | 'c' => setCheck c true
  | 'C' => setCheck c false
  | '!' =>
    match g.value with
    | none => setCheck c true
    | some value =>
      setCheck c (← Work.chooseOr strayed "--check"
        [("quiet", false), ("silent", false), ("diagnose-first", true)] value)
  | '=' => return setOrder c (← Work.chooseOr strayed "--sort" orders value)
  | 'F' => return { c with list := some value }
  | 't' => setSeparator c value
  | 'S' =>
    checkSize value
    return c
  | 'P' =>
    if (← numberOption "parallel" value) = 0 then
      Work.fail [text "number in parallel must be nonzero"]
    return c
  | 'B' =>
    if (← numberOption "batch-size" value) < 2 then
      Work.complain [text "invalid --batch-size argument ", Quoting.plain value]
      Work.fail [text "minimum --batch-size argument is '2'"]
    return c
  | 'y' | 'T' | 'D' => return c
  | letter => return setOrder c letter

/-- the first line that is out of order, and its number -/
def disorder? (c : Choice) : Nat → List Held → Option (Nat × Bytes)
  | n, a :: b :: rest =>
    let o := c.compare a b
    if o = .gt ∨ (c.unique ∧ o = .eq) then some (n + 1, b.1) else disorder? c (n + 1) (b :: rest)
  | _, _ => none

def linesOf (c : Choice) (operand : Bytes) : Work (List Bytes) := do
  match ← Work.openOperand operand with
  | .error e => Work.fail [text "cannot read: ", Quoting.name operand, text ": ", reason e]
  | .ok fd =>
    match ← Work.readAll fd with
    | .error e => Work.fail [text "read failed: ", Quoting.name operand, text ": ", reason e]
    | .ok data =>
      Work.closeOperand operand fd
      return rows c.ending data.toList

/-- the inputs that a file names -/
def listed (list : Bytes) : Work (List Bytes) := do
  match ← Work.openOperand list with
  | .error e => Work.fail [text "open failed: ", Quoting.name list, text ": ", reason e]
  | .ok fd =>
    match ← Work.readAll fd with
    | .error e => Work.fail [text "read failed: ", Quoting.name list, text ": ", reason e]
    | .ok data =>
      let names := rows 0 data.toList
      if names.isEmpty then Work.fail [text "no input from ", Quoting.plain list]
      for (x, n) in names.zipIdx 1 do
        if x = [] then
          Work.fail [Quoting.name list, [58], Shell.decimal n,
            text ": invalid zero-length file name"]
        if list = Work.dash ∧ x = Work.dash then
          Work.fail [text "when reading file names from stdin, no file name of ",
            Quoting.plain x, text " allowed"]
      return names

def checkManner (m : Manner) : Work Unit := do
  if let some letters := m.clash? then
    Work.fail [text ("options '-" ++ letters ++ "' are incompatible")]

/-- the first operand that cannot be opened ends the tool before any is read -/
def checkInputs (inputs : List Bytes) : Work Unit := do
  for x in inputs do
    if x ≠ Work.dash then
      if let .error e ← Work.node? x then
        Work.fail [text "cannot read: ", Quoting.name x, text ": ", reason e]

end Sorting

def sort : Routine := fun args => do
  let (c, operands) ← Work.options Sorting.menu args { : Sorting.Choice } Sorting.take
  let inputs ← match c.list with
    | none => pure (Work.orInput operands)
    | some list =>
      if let extra :: _ := operands then
        Work.complain [text "extra operand ", Quoting.plain extra]
        Work.say [text "file operands cannot be combined with --files0-from\n"]
        Work.usage
      Sorting.listed list
  for k in c.keysUsed do
    Sorting.checkManner k.manner
  if c.keys.isEmpty then Sorting.checkManner c.manner
  if let some shows := c.check then
    let letter := if shows then "c" else "C"
    if let _ :: extra :: _ := inputs then
      Work.fail [text "extra operand ", Quoting.plain extra, text (" not allowed with -" ++ letter)]
    if c.output.isSome then Work.fail [text ("options '-" ++ letter ++ "o' are incompatible")]
    let x := inputs.headD []
    if let some (n, line) := Sorting.disorder? c 1 ((← Sorting.linesOf c x).map c.hold) then
      if shows then
        Work.complain [Quoting.name x, [58], Shell.decimal n, text ": disorder: ", line]
      throw 1
    return
  Sorting.checkInputs inputs
  if let some path := c.output then
    match ← Work.act (Act.openPath path { Access.write with truncates := false }) with
    | .error e => Work.fail [text "open failed: ", Quoting.name path, text ": ", reason e]
    | .ok fd => Work.act (Act.close fd)
  let lists ← inputs.mapM (Sorting.linesOf c)
  if let some path := c.output then
    match ← Work.act (Act.openPath path Access.write) with
    | .error e => Work.fail [text "open failed: ", Quoting.name path, text ": ", reason e]
    | .ok fd =>
      let _ ← Work.act (Act.duplicate fd 1 false)
  let lines := if c.merges then c.merged lists else c.sorted lists.flatten
  let all := lines.flatMap fun line => line ++ [c.ending]
  if let some e ← Work.act (Act.put 1 all) then
    Work.complain [text "fflush failed: ", c.output.getD (text "'standard output'"), text ": ",
      reason e]
    Work.fail [text "write error"]

end JarLauncher.Tool
