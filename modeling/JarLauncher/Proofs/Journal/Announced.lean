import JarLauncher.Proofs.Display
import JarLauncher.Proofs.Independence
import JarLauncher.Proofs.Journal.Replay

/-! The lines of an announcement, as octets on a console and as entries of a journal. The directory
is shown as it is, so each newline in its name makes one line more than the banner and the command;
without one there are exactly these two. -/

namespace JarLauncher

variable {σ τ : Type}

namespace Journal

/-- a journal takes each piece whole, so pieces one after another are one write -/
theorem writeAll_console {j : Journal} (h : newline ∉ j.pending) (bs : Bytes) :
    console.writeAll bs j = (none, j.write bs) := by
  cases bs with
  | nil => rw [Console.writeAll_nil, write_nil h]
  | cons b rest =>
    have hw : console.write (b :: rest) j =
        (.accepted (rest.length + 1), j.write (b :: rest)) := rfl
    rw [Console.writeAll_accepted _ (by simp) hw]
    simp

theorem writePieces_console {j : Journal} (h : newline ∉ j.pending) (pieces : List Bytes) :
    console.writePieces pieces j = (none, j.write pieces.flatten) := by
  induction pieces generalizing j with
  | nil => rw [List.flatten_nil, write_nil h]; rfl
  | cons piece pieces ih =>
    rw [Console.writePieces, writeAll_console h, List.flatten_cons, ← write_write]
    exact ih (newline_notMem_after h (.write piece))

end Journal

namespace Launch

open Attempt Journal

theorem announce_console {j : Journal} (h : newline ∉ j.pending) (c : Command) :
    announce Journal.console c j = (none, j.write (Utf8.encode (announcement c))) := by
  rw [announce, writePieces_console h, pieces_flatten]
  rfl

theorem newline_notMem_banner : newline ∉ Utf8.encode banner := by decide

theorem count_label : (Utf8.encode label).count newline = 0 := by decide

/-- the texts behind the directory are of one line -/
theorem newline_notMem_text {profile : Profile} (h : profile = .bundled ∨ profile = .windows) :
    newline ∉ Utf8.encode profile.text := by
  rcases h with rfl | rfl <;> decide

/-- an announcement as its banner and the rest, each ended by a newline -/
theorem encode_announcement_lines (c : Command) :
    Utf8.encode (announcement c) =
      Utf8.encode banner ++ newline :: (Utf8.encode (label ++ c.display) ++ newline :: []) := by
  have hnewline : Utf8.encode "\n" = [newline] := by decide
  simp [announcement, hnewline]

theorem count_encode_shown {profile : Profile} (h : newline ∉ Utf8.encode profile.text)
    (dir : Bytes) :
    (Utf8.encode (label ++ (Command.ofDir dir profile).display)).count newline =
      dir.count newline := by
  rw [Utf8.encode_append, List.count_append, count_label, Command.display,
    Utf8.count_encode_lossy rfl, Command.ofDir_line, List.count_append, List.count_eq_zero.2 h]
  omega

theorem count_announcement {profile : Profile} (h : newline ∉ Utf8.encode profile.text)
    (dir : Bytes) :
    (Utf8.encode (announcement (Command.ofDir dir profile))).count newline =
      dir.count newline + 2 := by
  rw [encode_announcement_lines, List.count_append, List.count_cons_self, List.count_append,
    List.count_singleton_self, count_encode_shown h, List.count_eq_zero.2 newline_notMem_banner]
  omega

theorem lines_announcement_iff {profile : Profile} (h : newline ∉ Utf8.encode profile.text)
    (dir : Bytes) :
    let c := Command.ofDir dir profile
    Journal.lines (Utf8.encode (announcement c)) =
        ([Utf8.encode banner, Utf8.encode (label ++ c.display)], []) ↔ newline ∉ dir := by
  intro c
  constructor
  · intro hlines
    have hcount := length_lines (Utf8.encode (announcement c))
    rw [hlines, count_announcement h] at hcount
    simp only [List.length_cons, List.length_nil] at hcount
    exact List.count_eq_zero.1 (by omega)
  · intro hdir
    have hshown : newline ∉ Utf8.encode (label ++ c.display) := by
      rw [← List.count_eq_zero, count_encode_shown h]
      exact List.count_eq_zero.2 hdir
    rw [encode_announcement_lines, lines_line newline_notMem_banner, lines_line hshown]
    rfl

theorem accepted_beside (found : Except LaunchError Bytes) {console : Console σ}
    (h : console.TakesAll) (shell : Runner τ) (profile : Profile) (s : σ) (t : τ) :
    accepted (attempts (.beside found console shell) profile (s, t)) =
      Utf8.encode (announcement (Command.ofDir (resolve found).1 profile)) := by
  have hfirst : (Surroundings.beside found console shell).console.TakesAll := fun bs s => h bs s.1
  exact accepted_attempts hfirst profile (s, t)

/-- the journal that a launch announces itself on, apart from its shell -/
theorem execute_journal (found : Except LaunchError Bytes) (profile : Profile) (shell : Runner τ)
    {j : Journal} (h : j.pending = []) (t : τ) :
    (execute (.beside found Journal.console shell) profile (j, t)).state.1 =
      j.write (Utf8.encode (announcement (Command.ofDir (resolve found).1 profile))) := by
  rw [(execute_beside found Journal.console shell profile j t).2, announce_console (by simp [h])]

theorem length_outputLines_announced {profile : Profile}
    (h : newline ∉ Utf8.encode profile.text) (dir : Bytes) {j : Journal} (hj : j.pending = []) :
    (j.write (Utf8.encode (announcement (Command.ofDir dir profile)))).outputLines.length =
      j.outputLines.length + dir.count newline + 2 := by
  rw [outputLines_write, hj, List.nil_append, List.length_append, List.length_map, length_lines,
    count_announcement h, Nat.add_assoc]

/-- For a console that takes everything and a journal on which nothing waits: what a launch shows
has two newlines more than the directory's name has. Exactly if that name has none, what is shown
are two lines, the banner and the label with the whole displayed command, and the journal gains
these two. -/
theorem two_lines_iff (found : Except LaunchError Bytes) {profile : Profile}
    (hp : profile = .bundled ∨ profile = .windows) {console : Console σ} (h : console.TakesAll)
    (shell : Runner τ) (s : σ) (t : τ) {j : Journal} (hj : j.pending = []) :
    let dir := (resolve found).1
    let c := Command.ofDir dir profile
    let shown := accepted (attempts (.beside found console shell) profile (s, t))
    let journal := (execute (.beside found Journal.console shell) profile (j, t)).state.1
    shown.count newline = dir.count newline + 2 ∧
    (Journal.lines shown = ([Utf8.encode banner, Utf8.encode (label ++ c.display)], []) ↔
      newline ∉ dir) ∧
    journal.outputLines.length = j.outputLines.length + dir.count newline + 2 ∧
    (journal = ⟨j.entries ++ [.output banner, .output (label ++ c.display)], []⟩ ↔
      newline ∉ dir) := by
  intro dir c shown journal
  have htext := newline_notMem_text hp
  have hshown : shown = Utf8.encode (announcement c) :=
    accepted_beside found h shell profile s t
  have hjournal : journal = j.write (Utf8.encode (announcement c)) :=
    execute_journal found profile shell hj t
  have hlength : journal.outputLines.length = j.outputLines.length + dir.count newline + 2 := by
    rw [hjournal]
    exact length_outputLines_announced htext dir hj
  refine ⟨?_, ?_, hlength, ?_⟩
  · rw [hshown]
    exact count_announcement htext dir
  · rw [hshown]
    exact lines_announcement_iff htext dir
  · constructor
    · intro hgained
      have houtput : journal.outputLines = j.outputLines ++ [banner, label ++ c.display] := by
        rw [hgained]
        simp [outputLines, List.filterMap_append, Entry.output?]
      rw [houtput, List.length_append, List.length_cons, List.length_singleton] at hlength
      exact List.count_eq_zero.1 (by omega)
    · intro hdir
      rw [hjournal, write_eq, hj, List.nil_append, (lines_announcement_iff htext dir).2 hdir,
        List.map_cons, List.map_singleton, Utf8.lossy_encode, Utf8.lossy_encode]

/-- a directory with an octet of no encoding and a carriage return, but without a newline -/
theorem two_lines_iff_of_stray :
    let found : Except LaunchError Bytes := .ok [47, 0xFF, 13]
    let console : Console Bytes := Console.accepting fun bs written => written ++ bs
    let shell := Journal.recordingShell none true
    let shown := accepted (attempts (.beside found console shell) .windows ([], Journal.empty))
    let journal := (execute (.beside found Journal.console shell) .windows
      (Journal.empty, Journal.empty)).state.1
    let display := (Command.ofDir [47, 0xFF, 13] .windows).display
    console.TakesAll ∧ Journal.empty.pending = [] ∧ newline ∉ [47, 0xFF, 13] ∧
      Journal.lines shown = ([Utf8.encode banner, Utf8.encode (label ++ display)], []) ∧
      journal = ⟨[.output banner, .output (label ++ display)], []⟩ := by
  intro found console shell shown journal display
  have h : console.TakesAll := fun _ _ => rfl
  have hdir : newline ∉ [47, 0xFF, 13] := by decide
  obtain ⟨-, hlines, -, hjournal⟩ :=
    two_lines_iff found (Or.inr rfl) h shell [] Journal.empty (j := Journal.empty) rfl
  exact ⟨h, rfl, hdir, hlines.2 hdir, hjournal.2 hdir⟩

/-- A newline in the name of the directory, which holds no NUL, makes three lines of the
announcement and three entries of the journal. -/
theorem three_lines_of_newline :
    let found : Except LaunchError Bytes := .ok [47, 97, 10, 98]
    let console : Console Bytes := Console.accepting fun bs written => written ++ bs
    let shell := Journal.recordingShell (some 0) false
    let shown := accepted (attempts (.beside found console shell) .bundled ([], Journal.empty))
    let journal := (execute (.beside found Journal.console shell) .bundled
      (Journal.empty, Journal.empty)).state.1
    0 ∉ ([47, 97, 10, 98] : Bytes) ∧ console.TakesAll ∧ shown.count newline = 3 ∧
      journal.outputLines.length = 3 := by
  intro found console shell shown journal
  have h : console.TakesAll := fun _ _ => rfl
  have htext := newline_notMem_text (Or.inl (rfl : Profile.bundled = .bundled))
  refine ⟨by decide, h, ?_, ?_⟩
  · calc
      shown.count newline = _ := congrArg _ (accepted_beside found h shell .bundled [] Journal.empty)
      _ = _ := count_announcement htext _
  · calc
      journal.outputLines.length = _ :=
        congrArg (·.outputLines.length) (execute_journal found .bundled shell rfl Journal.empty)
      _ = _ := length_outputLines_announced htext _ rfl

end Launch
end JarLauncher
