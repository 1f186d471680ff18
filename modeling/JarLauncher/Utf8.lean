/-! UTF-8 over octet lists. `encode` writes text; `segments` cuts any octets into encoded
characters and broken pieces, each broken piece as long as some encoding agrees with it, and
`lossy` reads one character per segment, U+FFFD for a broken one. -/

namespace JarLauncher

abbrev Bytes := List UInt8

namespace Utf8

def encodeChar (c : Char) : Bytes := String.utf8EncodeChar c

def encode (s : String) : Bytes := s.toList.flatMap encodeChar

@[simp] theorem encode_append (a b : String) : encode (a ++ b) = encode a ++ encode b := by
  simp [encode]

/-- the ranges that the octets after `lead` are drawn from, in order; none after an octet that
opens no longer encoding -/
def tails (lead : UInt8) : List (UInt8 × UInt8) :=
  if lead < 0xC2 then []
  else if lead < 0xE0 then [(0x80, 0xBF)]
  else if lead = 0xE0 then [(0xA0, 0xBF), (0x80, 0xBF)]
  else if lead = 0xED then [(0x80, 0x9F), (0x80, 0xBF)]
  else if lead < 0xF0 then [(0x80, 0xBF), (0x80, 0xBF)]
  else if lead = 0xF0 then [(0x90, 0xBF), (0x80, 0xBF), (0x80, 0xBF)]
  else if lead < 0xF4 then [(0x80, 0xBF), (0x80, 0xBF), (0x80, 0xBF)]
  else if lead = 0xF4 then [(0x80, 0x8F), (0x80, 0xBF), (0x80, 0xBF)]
  else []

/-- the octets at the front of `bs` that fall in the ranges, one octet per range -/
def within : List (UInt8 × UInt8) → Bytes → Bytes
  | (lo, hi) :: ranges, b :: bs => if lo ≤ b ∧ b ≤ hi then b :: within ranges bs else []
  | _, _ => []

theorem within_prefix (ranges : List (UInt8 × UInt8)) (bs : Bytes) : within ranges bs <+: bs := by
  induction ranges generalizing bs with
  | nil => simp [within]
  | cons r ranges ih =>
    cases bs with
    | nil => simp [within]
    | cons b bs =>
      unfold within
      split
      · exact List.cons_prefix_cons.2 ⟨rfl, ih bs⟩
      · simp

/-- a bound on what the lead octet itself counts for, by how many octets follow it -/
def leadBound : Nat → Nat
  | 0 => 128
  | 1 => 32
  | 2 => 16
  | _ => 8

/-- the code point of a lead octet with its tail: six bits per tail octet under the lead's own -/
def codePoint (lead : UInt8) (tail : Bytes) : Nat :=
  tail.foldl (fun n b => n * 64 + b.toNat % 64) (lead.toNat % leadBound tail.length)

inductive Segment where
  | scalar (c : Char)
  | broken (octets : Bytes)
  deriving DecidableEq

namespace Segment

def octets : Segment → Bytes
  | scalar c => encodeChar c
  | broken bs => bs

/-- the character that stands for the segment in text -/
def char : Segment → Char
  | scalar c => c
  | broken _ => '\uFFFD'

def scalar? : Segment → Option Char
  | scalar c => some c
  | broken _ => none

/-- the segment that `lead` opens with the octets `tail` that agree with it -/
def ofLead (lead : UInt8) (tail : Bytes) : Segment :=
  if lead < 0x80 ∨ (tails lead ≠ [] ∧ tail.length = (tails lead).length) then
    scalar (Char.ofNat (codePoint lead tail))
  else broken (lead :: tail)

end Segment

def segmentsAfter (done : List Segment) : Bytes → List Segment
  | [] => done.reverse
  | lead :: rest =>
    let tail := within (tails lead) rest
    segmentsAfter (Segment.ofLead lead tail :: done) (rest.drop tail.length)
termination_by bs => bs.length

def segments (bs : Bytes) : List Segment := segmentsAfter [] bs

theorem segmentsAfter_eq (done : List Segment) : ∀ bs : Bytes,
    segmentsAfter done bs = done.reverse ++ segments bs
  | [] => by simp [segments, segmentsAfter]
  | lead :: rest => by
    rw [segments, segmentsAfter, segmentsAfter, segmentsAfter_eq, segmentsAfter_eq [_]]
    simp
termination_by bs => bs.length

@[simp] theorem segments_nil : segments [] = [] := by simp [segments, segmentsAfter]

theorem segments_cons (lead : UInt8) (rest : Bytes) :
    segments (lead :: rest) =
      Segment.ofLead lead (within (tails lead) rest) ::
        segments (rest.drop (within (tails lead) rest).length) := by
  rw [segments, segmentsAfter, segmentsAfter_eq]
  rfl

def lossy (bs : Bytes) : String := String.ofList ((segments bs).map Segment.char)

/-- the text that `bs` encodes, if every segment is a character -/
def decode? (bs : Bytes) : Option String :=
  ((segments bs).mapM Segment.scalar?).map String.ofList

end Utf8
end JarLauncher
