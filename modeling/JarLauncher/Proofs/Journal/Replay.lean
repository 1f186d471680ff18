import JarLauncher.Proofs.Journal.Lines

/-! What a journal shows after any series of calls. Its lines are those of all that was written,
its waiting octets are what follows the last newline, and the recorded lines stand where they were
recorded; so how the octets were cut into writes does not show. -/

namespace JarLauncher.Journal

inductive Event where
  | write (data : Bytes)
  | flush
  | record (line : Bytes)
  deriving DecidableEq

namespace Event

def data : Event → Bytes
  | write data => data
  | _ => []

def line? : Event → Option Bytes
  | record line => some line
  | _ => none

end Event

/-- a journal after a call on it, as a console or as the record of a shell -/
def after (j : Journal) : Event → Journal
  | .write data => (console.write data j).2
  | .flush => (console.flush j).2
  | .record line => j.record line

def replay (j : Journal) (events : List Event) : Journal := events.foldl after j

/-- all octets that were written, in order -/
def written (events : List Event) : Bytes := events.flatMap Event.data

/-- all lines that were recorded, in order -/
def recorded (events : List Event) : List Bytes := events.filterMap Event.line?

/-- put octets in front of the first block, or of the rest if there is none -/
def writeFirst (data : Bytes) : List (Bytes × Bytes) × Bytes → List (Bytes × Bytes) × Bytes
  | ([], rest) => ([], data ++ rest)
  | ((block, line) :: more, rest) => ((data ++ block, line) :: more, rest)

/-- what was written before each recorded line and after the one before it, with that line, and
what was written after the last -/
def blocks : List Event → List (Bytes × Bytes) × Bytes
  | [] => ([], [])
  | .write data :: events => writeFirst data (blocks events)
  | .flush :: events => blocks events
  | .record line :: events => (([], line) :: (blocks events).1, (blocks events).2)

@[simp] theorem after_write (j : Journal) (data : Bytes) : j.after (.write data) = j.write data := rfl

@[simp] theorem after_flush (j : Journal) : j.after .flush = j := rfl

@[simp] theorem after_record (j : Journal) (line : Bytes) :
    j.after (.record line) = j.record line := rfl

theorem write_eq (j : Journal) (data : Bytes) :
    j.write data =
      ⟨j.entries ++ (lines (j.pending ++ data)).1.map fun line => .output (Utf8.lossy line),
        (lines (j.pending ++ data)).2⟩ := rfl

theorem outputLines_write (j : Journal) (data : Bytes) :
    (j.write data).outputLines =
      j.outputLines ++ (lines (j.pending ++ data)).1.map Utf8.lossy := by
  simp [write_eq, outputLines, List.filterMap_append, List.filterMap_map, Function.comp_def,
    Entry.output?]

theorem executedLines_write (j : Journal) (data : Bytes) :
    (j.write data).executedLines = j.executedLines := by
  simp [write_eq, executedLines, List.filterMap_append, List.filterMap_map, Function.comp_def,
    Entry.executed?]

theorem outputLines_record (j : Journal) (line : Bytes) :
    (j.record line).outputLines = j.outputLines := by
  simp [record, outputLines, List.filterMap_append, Entry.output?]

theorem executedLines_record (j : Journal) (line : Bytes) :
    (j.record line).executedLines = j.executedLines ++ [line] := by
  simp [record, executedLines, List.filterMap_append, Entry.executed?]

/-! What holds of a journal whose calls are known. -/

structure Shows (events : List Event) (j : Journal) : Prop where
  output : j.outputLines = (lines (written events)).1.map Utf8.lossy
  pending : j.pending = (lines (written events)).2
  executed : j.executedLines = recorded events

theorem Shows.after {events : List Event} {j : Journal} (h : Shows events j) (e : Event) :
    Shows (events ++ [e]) (j.after e) := by
  have hwritten : written (events ++ [e]) = written events ++ e.data := by simp [written]
  have hrecorded : recorded (events ++ [e]) = recorded events ++ e.line?.toList := by
    cases hline : e.line? <;> simp [recorded, List.filterMap_append, hline]
  cases e with
  | write data =>
    refine ⟨?_, ?_, ?_⟩
    · rw [hwritten, lines_append, List.map_append, ← h.output, ← h.pending, after_write,
        outputLines_write]
      rfl
    · rw [hwritten, lines_append, ← h.pending]
      rfl
    · rw [hrecorded, after_write, executedLines_write, h.executed]
      simp [Event.line?]
  | flush =>
    refine ⟨?_, ?_, ?_⟩
    · simpa [hwritten, Event.data] using h.output
    · simpa [hwritten, Event.data] using h.pending
    · simpa [hrecorded, Event.line?] using h.executed
  | record line =>
    refine ⟨?_, ?_, ?_⟩
    · simpa [hwritten, Event.data, outputLines_record] using h.output
    · simpa [hwritten, Event.data, record] using h.pending
    · rw [hrecorded, after_record, executedLines_record, h.executed]
      rfl

theorem Shows.replay {before : List Event} {j : Journal} (h : Shows before j)
    (events : List Event) : Shows (before ++ events) (j.replay events) := by
  induction events generalizing before j with
  | nil => rwa [List.append_nil]
  | cons e events ih =>
    have hrest := ih (h.after e)
    rwa [List.append_assoc] at hrest

theorem shows_replay (events : List Event) : Shows events (replay empty events) :=
  (show Shows [] empty from ⟨rfl, rfl, rfl⟩).replay events

theorem newline_notMem_pending (events : List Event) :
    newline ∉ (replay empty events).pending := by
  rw [(shows_replay events).pending]
  exact (notMem_lines _).2

theorem entries_prefix_after (j : Journal) (e : Event) : j.entries <+: (j.after e).entries := by
  cases e with
  | write data => exact List.prefix_append _ _
  | flush => exact List.prefix_refl _
  | record line => exact List.prefix_append _ _

theorem entries_prefix_replay (j : Journal) (events : List Event) :
    j.entries <+: (j.replay events).entries := by
  induction events generalizing j with
  | nil => exact List.prefix_refl _
  | cons e events ih => exact (entries_prefix_after j e).trans (ih (j.after e))

/-- what is there when a line is recorded stays in front of it -/
theorem entries_replay_record (before later : List Event) (line : Bytes) :
    ∃ more, (replay empty (before ++ .record line :: later)).entries =
      (replay empty before).entries ++ .executed line :: more := by
  obtain ⟨more, hmore⟩ := entries_prefix_replay ((replay empty before).record line) later
  refine ⟨more, ?_⟩
  rw [replay, List.foldl_append, List.foldl_cons]
  exact hmore.symm.trans (by simp [record])

/-! Writes that follow each other are one. -/

theorem write_write (j : Journal) (a b : Bytes) : (j.write a).write b = j.write (a ++ b) := by
  rw [write_eq j (a ++ b), ← List.append_assoc, lines_append (j.pending ++ a), List.map_append,
    ← List.append_assoc]
  rfl

theorem write_nil {j : Journal} (h : newline ∉ j.pending) : j.write [] = j := by
  simp [write_eq, lines_of_notMem h]

theorem newline_notMem_after {j : Journal} (h : newline ∉ j.pending) (e : Event) :
    newline ∉ (j.after e).pending := by
  cases e with
  | write data => exact (notMem_lines _).2
  | flush => exact h
  | record line => exact h

/-- write each block as one, record its line, and write the rest as one -/
def ofBlocks (j : Journal) (b : List (Bytes × Bytes) × Bytes) : Journal :=
  (b.1.foldl (fun j (block : Bytes × Bytes) => (j.write block.1).record block.2) j).write b.2

theorem ofBlocks_writeFirst (j : Journal) (data : Bytes) (b : List (Bytes × Bytes) × Bytes) :
    j.ofBlocks (writeFirst data b) = (j.write data).ofBlocks b := by
  obtain ⟨_ | ⟨block, more⟩, rest⟩ := b <;> simp [ofBlocks, writeFirst, write_write]

/-- a replay is that of its blocks -/
theorem replay_eq_ofBlocks {j : Journal} (h : newline ∉ j.pending) (events : List Event) :
    j.replay events = j.ofBlocks (blocks events) := by
  induction events generalizing j with
  | nil => exact (write_nil h).symm
  | cons e events ih =>
    have htail : j.replay (e :: events) = (j.after e).ofBlocks (blocks events) :=
      ih (newline_notMem_after h e)
    cases e with
    | write data => rw [htail, after_write, blocks, ofBlocks_writeFirst]
    | flush => exact htail
    | record line => rw [htail, after_record, blocks, ofBlocks, ofBlocks, List.foldl_cons, write_nil h]

theorem dropLast_splitOn (bs : Bytes) : (bs.splitOn newline).dropLast = (lines bs).1 := by
  rw [splitOn_eq, List.dropLast_concat]

/-- After any series of calls on a fresh journal, with `w` all that was written: its lines are those
of `w`, and those of `w` read as text; what waits is what follows the last newline of `w`; each
recorded line has the lines before it that had ended by then; and the journal is the same for every
way to cut the writes. -/
theorem replay_shows_written (events : List Event) :
    let j := replay empty events
    let w := written events
    j.outputLines = (w.splitOn newline).dropLast.map Utf8.lossy ∧
    j.outputLines = ((Utf8.lossy w).toList.splitOn '\n').dropLast.map String.ofList ∧
    (w.splitOn newline).getLast? = some j.pending ∧
    (∀ n, newline ∉ (replay empty (events.take n)).pending) ∧
    (w.splitOn newline).dropLast.flatMap (· ++ [newline]) ++ j.pending = w ∧
    j.executedLines = recorded events ∧
    (∀ before line later, events = before ++ .record line :: later →
      ∃ earlier more, j.entries = earlier ++ .executed line :: more ∧
        earlier.filterMap Entry.executed? = recorded before ∧
        (earlier.filterMap Entry.output?).length = (written before).count newline) ∧
    ∀ others, blocks others = blocks events → replay empty others = j := by
  intro j w
  have h : Shows events j := shows_replay events
  refine ⟨?_, ?_, ?_, fun n => newline_notMem_pending _, ?_, h.executed, ?_, ?_⟩
  · rw [dropLast_splitOn, h.output]
  · rw [splitOn_lossy, ← List.map_dropLast, dropLast_splitOn, h.output, List.map_map]
    exact List.map_congr_left fun line _ => String.ofList_toList.symm
  · rw [splitOn_eq, List.getLast?_concat, h.pending]
  · rw [dropLast_splitOn, h.pending, flatMap_lines]
  · rintro before line later rfl
    obtain ⟨more, hmore⟩ := entries_replay_record before later line
    have hbefore := shows_replay before
    refine ⟨_, more, hmore, hbefore.executed, ?_⟩
    have hlines := congrArg List.length hbefore.output
    rwa [List.length_map, length_lines] at hlines
  · intro others hblocks
    have hempty : newline ∉ empty.pending := List.not_mem_nil
    rw [replay_eq_ofBlocks hempty, hblocks, ← replay_eq_ofBlocks hempty]

end JarLauncher.Journal
