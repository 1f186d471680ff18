import JarLauncher.Proofs.Journal.Calls

/-! Launches recorded on one journal, one after another. Each appends a block of its own: the lines
that it shows, if its console is the journal, and then the line that it runs. What waited on the
journal goes in front of what is shown next, and nothing else of a launch depends on those before. -/

namespace JarLauncher.Journal

open Launch

/-- the lines that a text ends, each without its newline -/
def endedLines (text : String) : List String :=
  (text.toList.splitOn '\n').dropLast.map String.ofList

namespace Trial

def run (t : Trial) (j : Journal) : Run Journal := execute t.around t.profile j

/-- what a launch shows on a journal on which some octets wait -/
def shown (t : Trial) (waiting : Bytes) : List String :=
  if t.closed then []
  else endedLines (Utf8.lossy waiting ++ banner ++ "\n" ++ label ++ t.command.display ++ "\n")

/-- the entries that a launch appends -/
def block (t : Trial) (waiting : Bytes) : List Entry :=
  (t.shown waiting).map .output ++ [.executed t.command.line]

/-- what waits after a launch -/
def left (t : Trial) (waiting : Bytes) : Bytes := if t.closed then waiting else []

end Trial

/-- launches one after another: their results, and the journal in the end -/
def series : List Trial → Journal → List (Except LaunchError Report) × Journal
  | [], j => ([], j)
  | t :: trials, j =>
    let first := t.run j
    let (results, last) := series trials first.state
    (first.result :: results, last)

/-- the blocks of launches one after another, on a journal on which some octets wait at first -/
def blocksOf : Bytes → List Trial → List (List Entry)
  | _, [] => []
  | waiting, t :: trials => t.block waiting :: blocksOf (t.left waiting) trials

theorem endedLines_lossy (bs : Bytes) :
    endedLines (Utf8.lossy bs) = (lines bs).1.map Utf8.lossy := by
  rw [endedLines, splitOn_lossy, ← List.map_dropLast, dropLast_splitOn, List.map_map]
  exact List.map_congr_left fun line _ => String.ofList_toList

theorem lines_append_newline (bs : Bytes) : (lines (bs ++ [newline])).2 = [] := by
  rw [lines_append, lines_line (notMem_lines bs).2]
  rfl

/-- a text that ends its last line leaves nothing behind -/
theorem write_text (j : Journal) (text : String) :
    j.write (Utf8.encode (text ++ "\n")) =
      ⟨j.entries ++ (endedLines (Utf8.lossy j.pending ++ text ++ "\n")).map .output, []⟩ := by
  have hnewline : Utf8.encode "\n" = [newline] := by decide
  rw [write_eq, String.append_assoc, ← Utf8.lossy_append_encode, endedLines_lossy, List.map_map,
    Utf8.encode_append, hnewline, ← List.append_assoc, lines_append_newline]
  rfl

namespace Trial

variable (t : Trial) (j : Journal)

theorem result_run : (t.run j).result = t.result := t.result_execute write record j

theorem state_run {j : Journal} (h : newline ∉ j.pending) :
    (t.run j).state = ⟨j.entries ++ t.block j.pending, t.left j.pending⟩ := by
  have hshell (line : Bytes) (j : Journal) : (t.around.shell.execute line j).2 = j.record line := rfl
  have hcommand : Launch.command t.around t.profile j = t.command :=
    t.command_surroundings write record j
  refine (state_execute t.around t.profile j).trans ?_
  rw [hshell, hcommand]
  cases hclosed : t.closed
  · have hconsole : t.around.console = Journal.console := by
      simp [around, surroundings, hclosed, Journal.console]
    rw [hconsole, announce_console h, announcement, write_text]
    simp [record, block, shown, left, hclosed, String.append_assoc]
  · have hconsole : t.around.console = closedConsole := by
      simp [around, surroundings, hclosed]
    rw [hconsole, announce_closedConsole]
    simp [record, block, shown, left, hclosed]

theorem newline_notMem_left {waiting : Bytes} (h : newline ∉ waiting) :
    newline ∉ t.left waiting := by
  rw [left]
  split
  · exact h
  · exact List.not_mem_nil

end Trial

variable {j : Journal} {before : List Trial}

/-- a series from its first launch on -/
theorem series_cons (t : Trial) (trials : List Trial) (h : newline ∉ j.pending) :
    let next : Journal := ⟨j.entries ++ t.block j.pending, t.left j.pending⟩
    series (t :: trials) j = (t.result :: (series trials next).1, (series trials next).2) := by
  intro next
  rw [series, t.result_run, t.state_run h]

theorem series_append (before later : List Trial) (j : Journal) :
    series (before ++ later) j =
      ((series before j).1 ++ (series later (series before j).2).1,
        (series later (series before j).2).2) := by
  induction before generalizing j with
  | nil => rfl
  | cons t before ih => rw [List.cons_append, series, ih, series]; rfl

theorem newline_notMem_series (trials : List Trial) (h : newline ∉ j.pending) :
    newline ∉ (series trials j).2.pending := by
  induction trials generalizing j with
  | nil => exact h
  | cons t trials ih =>
    rw [series_cons t trials h]
    exact ih (t.newline_notMem_left h)

theorem results_series (trials : List Trial) (h : newline ∉ j.pending) :
    (series trials j).1 = trials.map Trial.result := by
  induction trials generalizing j with
  | nil => rfl
  | cons t trials ih =>
    rw [series_cons t trials h, List.map_cons]
    exact congrArg (t.result :: ·) (ih (t.newline_notMem_left h))

/-- the entries that a series appends are the blocks of its launches, one after the other -/
theorem entries_series (trials : List Trial) (h : newline ∉ j.pending) :
    (series trials j).2.entries = j.entries ++ (blocksOf j.pending trials).flatten := by
  induction trials generalizing j with
  | nil => exact (List.append_nil _).symm
  | cons t trials ih =>
    rw [series_cons t trials h, blocksOf, List.flatten_cons, ← List.append_assoc]
    exact ih (t.newline_notMem_left h)

theorem entries_prefix_series (trials : List Trial) (h : newline ∉ j.pending) :
    j.entries <+: (series trials j).2.entries := by
  rw [entries_series trials h]
  exact List.prefix_append _ _

theorem series_concat (before : List Trial) (t : Trial) (h : newline ∉ j.pending) :
    let found := (series before j).2
    (series (before ++ [t]) j).2 = ⟨found.entries ++ t.block found.pending, t.left found.pending⟩ := by
  intro found
  rw [series_append, series_cons t [] (newline_notMem_series before h)]
  rfl

theorem pending_series_of_nil (trials : List Trial) (h : j.pending = []) :
    (series trials j).2.pending = [] := by
  induction trials generalizing j with
  | nil => exact h
  | cons t trials ih =>
    rw [series_cons t trials (by simp [h])]
    exact ih (by simp [Trial.left, h])

/-- nothing waits any more once a launch has shown itself on the journal -/
theorem pending_series_of_open (h : newline ∉ j.pending) (hopen : ∃ t ∈ before, t.closed = false) :
    (series before j).2.pending = [] := by
  obtain ⟨t, hmem, hclosed⟩ := hopen
  obtain ⟨earlier, later, rfl⟩ := List.append_of_mem hmem
  rw [series_append, series_cons t later (newline_notMem_series earlier h)]
  exact pending_series_of_nil later (by simp [Trial.left, hclosed])

/-- A series of launches on a journal on which an unended line may wait: it answers as each shell
does, and appends the blocks of the launches. A launch on a closed console appends its line and
leaves what waits; one on the journal appends the lines of what waits and of its announcement, then
its line, and leaves nothing waiting. Once one of these has been, the block of a launch is its own,
whatever came before; and no entry is changed later. -/
theorem series_appends_blocks (trials : List Trial) {j : Journal} (h : newline ∉ j.pending) :
    let last := (series trials j).2
    (series trials j).1 = trials.map Trial.result ∧
    last.entries = j.entries ++ (blocksOf j.pending trials).flatten ∧
    ∀ before t later, trials = before ++ t :: later →
      let found := (series before j).2
      let left := (series (before ++ [t]) j).2
      (t.closed = true →
        left = ⟨found.entries ++ [.executed t.command.line], found.pending⟩) ∧
      (t.closed = false →
        let text := Utf8.lossy found.pending ++ banner ++ "\n" ++ label ++ t.command.display ++ "\n"
        left = ⟨found.entries ++ (endedLines text).map .output ++ [.executed t.command.line], []⟩) ∧
      ((∃ earlier ∈ before, earlier.closed = false) →
        left.entries = found.entries ++ t.block []) ∧
      found.entries <+: left.entries ∧ left.entries <+: last.entries := by
  intro last
  refine ⟨results_series trials h, entries_series trials h, ?_⟩
  rintro before t later rfl found left
  have hleft : left = ⟨found.entries ++ t.block found.pending, t.left found.pending⟩ :=
    series_concat before t h
  refine ⟨?_, ?_, ?_, ?_, ?_⟩
  · intro hclosed
    rw [hleft]
    simp [Trial.block, Trial.shown, Trial.left, hclosed]
  · intro hclosed text
    rw [hleft]
    simp [Trial.block, Trial.shown, Trial.left, hclosed, text]
  · intro hopen
    rw [hleft, show found.pending = [] from pending_series_of_open h hopen]
  · rw [hleft]
    exact List.prefix_append _ _
  · have hsplit : before ++ t :: later = before ++ [t] ++ later := List.append_cons before t later
    have hlast : last = (series later left).2 := by
      change (series (before ++ t :: later) j).2 = _
      rw [hsplit, series_append]
    rw [hlast]
    exact entries_prefix_series later (newline_notMem_series _ h)

/-- On a journal on which half a character waits: a launch that shows nothing, then the same launch
from a directory with a newline twice, with one between them whose shell refuses. -/
theorem series_appends_blocks_of_half_character :
    let j : Journal := ⟨[], [0xC3]⟩
    let closed : Trial := ⟨true, none, .bundled, some 0, false⟩
    let shows : Trial := ⟨false, some [47, 10], .windows, none, false⟩
    let refused : Trial := ⟨false, none, .bundled, some 1, true⟩
    let trials := [closed, shows, refused, shows]
    newline ∉ j.pending ∧
      (series trials j).1 = trials.map Trial.result ∧
      (series [closed] j).2 = ⟨[.executed closed.command.line], [0xC3]⟩ ∧
      (series trials j).2.entries =
        (series [closed, shows, refused] j).2.entries ++ shows.block [] := by
  intro j closed shows refused trials
  have h : newline ∉ j.pending := by decide
  obtain ⟨hresults, -, hsteps⟩ := series_appends_blocks trials h
  refine ⟨h, hresults, ?_, ?_⟩
  · exact (hsteps [] closed [shows, refused, shows] rfl).1 rfl
  · exact (hsteps [closed, shows, refused] shows [] rfl).2.2.1 ⟨shows, by simp, rfl⟩

end JarLauncher.Journal
