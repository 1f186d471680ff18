import JarLauncher.Tool.Copy
import JarLauncher.Tool.Input
import JarLauncher.Tool.Sorting.Order

/-! Words in an order in which none comes before one that it follows, and lines in any order. -/

namespace JarLauncher.Tool

open Unix
open Shell (text newline)

namespace Topology

/-- a word with the words that follow it, the latest first -/
structure Item where
  word : Bytes
  /-- how many others it still waits for -/
  waits : Nat
  followers : List Bytes
  done : Bool := false
  /-- the one found before it on the way around a loop -/
  link : Option Bytes := none

/-- all words in order -/
abbrev Items := List Item

def insert (word : Bytes) : Items → Items
  | [] => [⟨word, 0, [], false, none⟩]
  | x :: rest =>
    match Sorting.compareOctets word x.word with
    | .lt => ⟨word, 0, [], false, none⟩ :: x :: rest
    | .eq => x :: rest
    | .gt => x :: insert word rest

def modify (word : Bytes) (f : Item → Item) (xs : Items) : Items :=
  xs.map fun x => if x.word = word then f x else x

def relate (a b : Bytes) (xs : Items) : Items :=
  let xs := insert b (insert a xs)
  if a = b then xs
  else modify b (fun x => { x with waits := x.waits + 1 })
    (modify a (fun x => { x with followers := b :: x.followers }) xs)

def ofWords : List Bytes → Items → Items
  | a :: b :: rest, xs => ofWords rest (relate a b xs)
  | _, xs => xs

/-- take words that wait for nothing from a queue, and free those that follow them -/
def release : Nat → List Bytes → Items → List Bytes → List Bytes × Items
  | 0, _, xs, out => (out.reverse, xs)
  | _, [], xs, out => (out.reverse, xs)
  | fuel + 1, word :: queue, xs, out =>
    let followers := ((xs.find? (·.word = word)).map Item.followers).getD []
    let (xs, freed) := followers.foldl (fun (xs, freed) b =>
      let xs := modify b (fun x => { x with waits := x.waits - 1 }) xs
      let isFree : Bool := (xs.find? (·.word = b)).any (·.waits = 0)
      (xs, if isFree then b :: freed else freed)) (xs, ([] : List Bytes))
    let xs := modify word (fun x => { x with done := true }) xs
    release fuel (queue ++ freed.reverse) xs (word :: out)

/-- the words around a loop from its latest one back to `stop` -/
def around (xs : Items) (stop : Bytes) : Nat → Bytes → List Bytes
  | 0, _ => []
  | fuel + 1, word =>
    if word = stop then [word]
    else match (xs.find? (·.word = word)).bind Item.link with
      | some next => word :: around xs stop fuel next
      | none => [word]

/-- Look at one word on the search for a loop, where `tip` was found last. Answers the loop, and the
words with one relation of it removed. -/
def search (xs : Items) (tip : Option Bytes) (word : Bytes) :
    Items × Option Bytes × Option (List Bytes) :=
  match xs.find? (·.word = word), tip with
  | some x, none => (xs, if x.waits = 0 then none else some word, none)
  | some x, some last =>
    if x.waits = 0 ∨ !x.followers.contains last then (xs, tip, none)
    else if x.link.isSome then
      let loop := around xs word (xs.length + 1) last
      let xs := modify last (fun y => { y with waits := y.waits - 1 })
        (modify word (fun y => { y with followers := y.followers.erase last }) xs)
      (xs.map fun y => { y with link := none }, none, some loop)
    else (modify word (fun y => { y with link := some last }) xs, some word, none)
  | none, _ => (xs, tip, none)

/-- go through all words until a loop is found, as often as that takes -/
def findLoop : Nat → Items → Option Bytes → List Bytes → Items × List Bytes
  | 0, xs, _, _ => (xs, [])
  | fuel + 1, xs, tip, [] => findLoop fuel xs tip (xs.map Item.word)
  | fuel + 1, xs, tip, word :: rest =>
    match search xs tip word with
    | (xs, _, some loop) => (xs, loop)
    | (xs, tip, none) => findLoop fuel xs tip rest

def sortFrom (shown : Bytes) : Nat → Items → Work Unit
  | 0, _ => return
  | fuel + 1, xs => do
    let free := (xs.filter fun x => x.waits = 0 && !x.done).map Item.word
    let (out, xs) := release (xs.length + 1) free xs []
    out.forM Work.putLine
    if xs.any fun x => !x.done then
      Work.warn [shown, text ": input contains a loop:"]
      let (xs, loop) := findLoop ((xs.length + 1) * (xs.length + 2)) xs none []
      loop.forM fun word => Work.complain [word]
      sortFrom shown fuel xs

def isBetween (b : UInt8) : Bool := b == 32 || b == 9 || b == newline

end Topology

def tsort : Routine := fun args => do
  let (_, operands) ← Work.flags { letters := "" } args
  if let _ :: extra :: _ := operands then Work.extraOperand extra
  let x := operands.headD Work.dash
  match ← Work.openOperand x with
  | .error e => Work.fail [Quoting.name x, text ": ", reason e]
  | .ok fd =>
    match ← Work.readAll fd with
    | .error e => Work.fail [Quoting.name x, text ": read error: ", reason e]
    | .ok data =>
      let bs := data.toList.map fun b => if Topology.isBetween b then 32 else b
      let words := (Path.splitOn 32 bs).filter (· ≠ [])
      if words.length % 2 = 1 then
        Work.fail [Quoting.name x, text ": input contains an odd number of tokens"]
      let items := Topology.ofWords words []
      let relations := items.foldl (fun n x => n + x.followers.length) 0
      Topology.sortFrom (Quoting.name x) (relations + 1) items

namespace Shuffle

structure Choice where
  words : Bool := false
  range : Option (Nat × Nat) := none
  count : Option Nat := none
  output : Option Bytes := none
  repeats : Bool := false
  ending : UInt8 := newline

def take (c : Choice) (g : Given) : Work Choice := do
  let value := g.value.getD []
  match g.letter with
  | 'e' => return { c with words := true }
  | 'i' =>
    let invalid : Work Choice := Work.fail [text "invalid input range: ", Quoting.plain value]
    match (Path.splitOn 45 value).mapM Shell.natOf? with
    | some [lo, hi] => if hi + 1 < lo then invalid else return { c with range := some (lo, hi) }
    | _ => invalid
  | 'n' =>
    match Shell.natOf? value with
    | some n => return { c with count := some (min n (c.count.getD n)) }
    | none => Work.fail [text "invalid line count: ", Quoting.plain value]
  | 'o' => return { c with output := g.value }
  | 'r' => return { c with repeats := true }
  | 'z' => return { c with ending := 0 }
  | _ => return c

/-- as many of the lines as are wanted, from the first on again if there are too few -/
def dealt (lines : List Bytes) : Nat → List Bytes → List Bytes
  | 0, _ => []
  | n + 1, line :: rest => line :: dealt lines n rest
  | n + 1, [] =>
    match lines with
    | line :: rest => line :: dealt lines n rest
    | [] => []

end Shuffle

def shuf : Routine := fun args => do
  let (c, operands) ← Work.options { letters := "ei:n:o:rz", words := [flag "echo" 'e',
    valued "input-range" 'i', valued "head-count" 'n', valued "output" 'o',
    valued "random-source" 'x', flag "repeat" 'r', flag "zero-terminated" 'z'] } args
    { : Shuffle.Choice } Shuffle.take
  if c.words && c.range.isSome then Work.misuse [text "cannot combine -e and -i options"]
  if !c.words then
    if let some extra := operands[if c.range.isSome then 0 else 1]? then Work.extraOperand extra
  let lines ← match c.range with
    | some (lo, hi) => pure ((List.range (hi + 1 - lo)).map fun i => Shell.decimal (lo + i))
    | none =>
      if c.words then pure operands
      else
        let x := operands.headD Work.dash
        match ← Work.openOperand x with
        | .error e => Work.fail [Quoting.name x, text ": ", reason e]
        | .ok fd =>
          match ← Work.readAll fd with
          | .error e => Work.fail [text "read error: ", reason e]
          | .ok data => pure (rows c.ending data.toList)
  if c.repeats && lines.isEmpty && c.count ≠ some 0 then Work.fail [text "no lines to repeat"]
  let lines := match c.count with
    | some n => if c.repeats then Shuffle.dealt lines n lines else lines.take n
    | none => lines
  let whole := lines.flatMap fun line => line ++ [c.ending]
  match c.output with
  | none => Work.put whole
  | some path =>
    match ← Work.act (Act.openPath path Access.write) with
    | .error e => Work.fail [Quoting.name path, text ": ", reason e]
    | .ok fd => if let some e ← Work.act (Act.writeAll fd (Act.octets whole)) then
        Work.fail [text "write error: ", reason e]

end JarLauncher.Tool
