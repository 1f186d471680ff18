import JarLauncher.Text.Radix
import JarLauncher.Tool.Option

/-! Tools that write octets with few signs, in lines, and read them back. -/

namespace JarLauncher.Tool

open Unix
open Shell (text newline)
open Text (Radix)

structure Encoding where
  radix : Option Radix
  decodes : Bool := false
  ignoresOthers : Bool := false
  /-- how long lines are; they do not end if it is zero -/
  width : Nat := 76

namespace Encoding

def words : List LongName :=
  [flag "decode" 'd', flag "ignore-garbage" 'i', valued "wrap" 'w']

/-- the ways to write, by the words that ask for them -/
def radices : List (String × Char × Radix) :=
  [("base64", '6', Radix.base64), ("base64url", 'u', Radix.base64url),
    ("base32", '3', Radix.base32), ("base32hex", 'h', Radix.base32hex),
    ("base16", '1', Radix.base16), ("base2msbf", '2', Radix.base2),
    ("base2lsbf", 'l', Radix.base2low)]

def take (how : Encoding) (g : Given) : Work Encoding := do
  match g.letter with
  | 'd' => return { how with decodes := true }
  | 'i' => return { how with ignoresOthers := true }
  | 'w' =>
    match Shell.natOf? (g.value.getD []) with
    | some n => return { how with width := if n < Nat.pow 2 63 then n else 0 }
    | none => Work.fail [text "invalid wrap size: ", Quoting.always (g.value.getD [])]
  | c =>
    let asked := radices.find? fun (_, letter, _) => letter = c
    return { how with radix := asked.map fun (_, _, r) => r }

/-- how much is written with few signs at once; whole groups of any radix -/
def block : Nat := 30720

/-- lines of a width, the first of which has room for `room` more, and the room that is left -/
def lines (width : Nat) : Nat → Nat → Bytes → Bytes × Nat
  | 0, room, bs => (bs, room)
  | fuel + 1, room, bs =>
    if bs.length < room then (bs, room - bs.length)
    else
      let (more, left) := lines width fuel width (bs.drop room)
      (bs.take room ++ newline :: more, left)

/-- write signs in lines of a width, which do not end if it is zero -/
def putLines (width room : Nat) (bs : Bytes) : Work Nat := do
  if width = 0 then
    Work.put bs
    return room
  let (shown, room) := lines width (bs.length + 1) room bs
  Work.put shown
  return room

/-- read a block, or what is left of it at the end -/
def next (fd : Nat) : Work (FileTree.Answer ByteArray) :=
  Work.loop ByteArray.empty fun done => do
    if block ≤ done.size then return .error (.ok done)
    match ← Work.act (Act.read fd (block - done.size)) with
    | .error e => return .error (.error e)
    | .ok piece => return if piece.isEmpty then .error (.ok done) else .ok (done ++ piece)

/-- write an input with few signs -/
def encodeFrom (how : Encoding) (r : Radix) (fd : Nat) : Work Unit := do
  let room ← Work.loop how.width fun room => do
    match ← next fd with
    | .error e => Work.fail [text "read error: ", reason e]
    | .ok data =>
      let room ← putLines how.width room (r.encode data.toList)
      return if data.size < block then .error room else .ok room
  if room < how.width then Work.put [newline]

end Encoding

/-- write the one operand, or standard input, with few signs, or read it back -/
def encodeWith (menu : Menu) (start : Encoding) : Routine := fun args => do
  let (how, operands) ← Work.options menu args start Encoding.take
  match how.radix with
  | none => Work.misuse [text "missing encoding type"]
  | some r =>
    if let _ :: extra :: _ := operands then Work.extraOperand extra
    let x := operands.headD Work.dash
    match ← Work.openOperand x with
    | .error e => Work.fail [Quoting.name x, text ": ", reason e]
    | .ok fd =>
      if how.decodes then
        match ← Work.readAll fd with
        | .error e => Work.fail [text "read error: ", reason e]
        | .ok data =>
          let isMeant (b : UInt8) : Bool :=
            if how.ignoresOthers then r.isSign b || some b = r.filler else b ≠ newline
          let (octets, isWhole) := r.decode (data.toList.filter isMeant)
          Work.put octets
          if !isWhole then Work.fail [text "invalid input"]
      else how.encodeFrom r fd

def base64 : Routine :=
  encodeWith { letters := "diw:", words := Encoding.words } { radix := some Radix.base64 }

def base32 : Routine :=
  encodeWith { letters := "diw:", words := Encoding.words } { radix := some Radix.base32 }

def basenc : Routine :=
  let words := Encoding.radices.map fun (word, letter, _) => flag word letter
  encodeWith { letters := "diw:", words := Encoding.words ++ words } { radix := none }

end JarLauncher.Tool
