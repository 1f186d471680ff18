import JarLauncher.Tool.Work

/-! Inputs that are read piece by piece, so that a tool may end before its input does. What was read
is held until it is used; a line is whole once its end was read, or the input has ended. -/

namespace JarLauncher.Tool

open Unix
open Shell (text)

/-- the lines of a text, the last one also if nothing ends it -/
def rows (sep : UInt8) (bs : Bytes) : List Bytes :=
  let parts := Path.splitOn sep bs
  if parts.getLast? = some [] then parts.dropLast else parts

/-- an input, and what of it is held -/
structure Source where
  fd : Nat
  /-- how much is read at once -/
  room : Nat := 4096
  held : ByteArray := ByteArray.empty
  /-- how much of what is held was used -/
  used : Nat := 0
  /-- it has ended -/
  isDry : Bool := false

namespace Source

/-- the place of an octet, from a place on -/
def indexOf? (b : UInt8) (data : ByteArray) : Nat → Nat → Option Nat
  | 0, _ => none
  | fuel + 1, i =>
    match data[i]? with
    | none => none
    | some x => if x = b then some i else indexOf? b data fuel (i + 1)

/-- how much is held and not used -/
def size (s : Source) : Nat := s.held.size - s.used

/-- what is held and not used -/
def rest (s : Source) : ByteArray := s.held.extract s.used s.held.size

/-- read on behind what is held -/
def fill (s : Source) : Work (FileTree.Answer Source) := do
  if s.isDry then return .ok s
  match ← Work.act (Act.read s.fd s.room) with
  | .error e => return .error e
  | .ok piece =>
    if piece.isEmpty then return .ok { s with isDry := true }
    return .ok { s with held := s.rest ++ piece, used := 0 }

/-- a line, and whether anything ends it -/
structure Line where
  octets : Bytes
  isEnded : Bool

/-- the line as it is written: with an end if it had one -/
def Line.whole (l : Line) (ending : UInt8) : Bytes :=
  if l.isEnded then l.octets ++ [ending] else l.octets

/-- the next line that is held in full, the search for its end going on at a place -/
def held? (s : Source) (ending : UInt8) (from_ : Nat) : Option (Line × Source) :=
  (indexOf? ending s.held (s.held.size - from_) from_).map fun i =>
    (⟨(s.held.extract s.used i).toList, true⟩, { s with used := i + 1 })

/-- the next line; none at the end -/
def line (s : Source) (ending : UInt8) : Work (FileTree.Answer (Option Line × Source)) :=
  Work.loop (s, s.used) fun (s, from_) => do
    match s.held? ending from_ with
    | some (l, s) => return .error (.ok (some l, s))
    | none =>
      let seen := s.size
      match ← s.fill with
      | .error e => return .error (.error e)
      | .ok s =>
        if !s.isDry then return .ok (s, seen)
        if s.size = 0 then return .error (.ok (none, s))
        return .error (.ok (some ⟨s.rest.toList, false⟩, { s with used := s.held.size }))

/-- put back what is held and not used, where that can be -/
def putBack (s : Source) : Work Unit := Work.act (Act.modify fun p sys =>
  match sys.opened? p s.fd with
  | some (_, o) => (sys.seek p s.fd (o.offset - s.size)).2
  | none => sys)

end Source

namespace Work

/-- Go through the lines of an input, until there are no more or `f` answers that it is enough. The
last value comes with what went wrong, and with the input as it was left. -/
def eachLine {σ : Type} (s : Source) (ending : UInt8) (state : σ)
    (f : σ → Source.Line → Work (Except σ σ)) : Work (σ × Option Int × Source) :=
  loop (s, state) fun (s, state) => do
    match ← s.line ending with
    | .error e => return .error (state, some e, s)
    | .ok (none, s) => return .error (state, none, s)
    | .ok (some l, s) =>
      match ← f state l with
      | .error state => return .error (state, none, s)
      | .ok state => return .ok (s, state)

/-- go through the pieces of an input as they are read -/
def eachPiece {σ : Type} (fd room : Nat) (state : σ) (f : σ → ByteArray → Work σ) :
    Work (σ × Option Int) :=
  loop state fun state => do
    match ← act (Act.read fd room) with
    | .error e => return .error (state, some e)
    | .ok piece =>
      if piece.isEmpty then return .error (state, none)
      return .ok (← f state piece)

/-- Go through all operands that can be opened and read, and complain of the others under their
names. -/
def eachOperand {σ : Type} (operands : List Bytes) (state : σ)
    (f : σ → Nat → Work (σ × Option Int)) : Work σ := do
  let mut state := state
  for x in orInput operands do
    match ← openOperand x with
    | .error e => warn [Quoting.name x, text ": ", reason e]
    | .ok fd =>
      let (after, fault) ← f state fd
      state := after
      if let some e := fault then warn [Quoting.name x, text ": ", reason e]
      closeOperand x fd
  return state

/-- go through the lines of all operands -/
def eachLineOf {σ : Type} (operands : List Bytes) (ending : UInt8) (state : σ)
    (f : σ → Source.Line → Work σ) : Work σ :=
  eachOperand operands state fun state fd => do
    let (state, fault, _) ← eachLine { fd := fd } ending state fun state l =>
      return .ok (← f state l)
    return (state, fault)

/-- go through the pieces of all operands -/
def eachPieceOf {σ : Type} (operands : List Bytes) (state : σ) (f : σ → ByteArray → Work σ) :
    Work σ :=
  eachOperand operands state fun state fd => eachPiece fd 4096 state f

end Work
end JarLauncher.Tool
