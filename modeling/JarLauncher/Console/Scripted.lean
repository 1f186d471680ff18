import JarLauncher.Console

/-! A console that follows a script: it takes at most so many octets at a time, fails once after so
many octets in all, and may fail its first flush. -/

namespace JarLauncher.Console

structure Script where
  /-- the most that one write takes -/
  maxWrite : Option Nat
  /-- after how many octets to fail, and with what; with none, by taking nothing -/
  failure : Option (Nat × Option IoError)
  flushFailure : Option IoError

namespace Script

/-- a script and the octets taken so far -/
abbrev State := Script × Nat

def limit (bound : Option Nat) (n : Nat) : Nat := (bound.map (min n)).getD n

/-- the next write fails -/
def refuses : State → Bool
  | (script, taken) => script.failure.any fun (point, _) => point ≤ taken

def write (bs : Bytes) : State → Written × State
  | (script, taken) =>
    match script.failure with
    | some (point, cause) =>
      if taken < point then
        let n := min (limit script.maxWrite bs.length) (point - taken)
        (.accepted n, script, taken + n)
      else
        let spent := { script with failure := none }
        match cause with
        | some e => (.failed e, spent, taken)
        | none => (.accepted 0, spent, taken)
    | none =>
      let n := limit script.maxWrite bs.length
      (.accepted n, script, taken + n)

def flush : State → Option IoError × State
  | (script, taken) => (script.flushFailure, { script with flushFailure := none }, taken)

/-- an interruption uses up the failure of a script -/
theorem failure_of_interrupts {s' s : State} (h : Interrupts write s' s) :
    s'.1.failure = none ∧ s.1.failure ≠ none := by
  obtain ⟨bs, e, hw, -⟩ := h
  obtain ⟨script, taken⟩ := s
  simp only [write] at hw
  split at hw
  next point cause hf =>
    split at hw
    · cases hw
    · cases cause with
      | none => cases hw
      | some e => cases hw; simp [hf]
  next => cases hw

end Script

def scripted : Console Script.State where
  write := Script.write
  flush := Script.flush
  patient := by
    refine Subrelation.wf ?_ (measure fun s : Script.State => s.1.failure.toList.length).wf
    intro s' s h
    obtain ⟨hs', hs⟩ := Script.failure_of_interrupts h
    obtain ⟨f, hf⟩ := Option.ne_none_iff_exists'.1 hs
    change s'.1.failure.toList.length < s.1.failure.toList.length
    simp [hs', hf]

end JarLauncher.Console
