import JarLauncher.Beside
import JarLauncher.Journal
import JarLauncher.Proofs.Announcement
import JarLauncher.Proofs.Utf8.Segments

/-! What is shown of a command line and what is run of it. The octets that are shown are text; they
are those that are run exactly if the directory is text too, because the profile's text behind the
directory neither mends nor breaks it. -/

namespace JarLauncher

variable {σ : Type}

/-- a console that takes all of every offer -/
def Console.TakesAll (console : Console σ) : Prop :=
  ∀ bs s, (console.write bs s).1 = .accepted bs.length

namespace Console

/-- no write of such a console is fatal -/
theorem TakesAll.writeAll_eq_none {console : Console σ} (h : console.TakesAll) (bs : Bytes)
    (s : σ) : (console.writeAll bs s).1 = none := by
  cases bs with
  | nil => simp
  | cons b rest =>
    have hw : console.write (b :: rest) s =
        (.accepted (rest.length + 1), (console.write (b :: rest) s).2) := Prod.ext (h _ s) rfl
    rw [writeAll_accepted _ (by simp) hw]
    simp

theorem TakesAll.writePieces_eq_none {console : Console σ} (h : console.TakesAll)
    (pieces : List Bytes) (s : σ) : (console.writePieces pieces s).1 = none := by
  induction pieces generalizing s with
  | nil => rfl
  | cons piece pieces ih =>
    have hp : console.writeAll piece s = (none, (console.writeAll piece s).2) :=
      Prod.ext (h.writeAll_eq_none piece s) rfl
    rw [writePieces, hp]
    exact ih _

end Console

namespace Launch

open Attempt

/-- the announcement without what is shown of the command line -/
theorem encode_announcement (c : Command) :
    Utf8.encode (announcement c) =
      Utf8.encode (banner ++ "\n" ++ label) ++ Utf8.encode c.display ++ Utf8.encode "\n" := by
  simp [announcement]

theorem encode_display_eq_line_iff (dir : Bytes) (profile : Profile) :
    Utf8.encode (Command.ofDir dir profile).display = (Command.ofDir dir profile).line ↔
      Utf8.Valid dir := by
  rw [Command.display, Utf8.encode_lossy_iff, Command.ofDir_line, Utf8.valid_append_encode_iff]

theorem accepted_attempts {around : Surroundings σ} (h : around.console.TakesAll)
    (profile : Profile) (s : σ) :
    accepted (attempts around profile s) =
      Utf8.encode (announcement (command around profile s)) := by
  obtain ⟨shown, hs, hcalls⟩ := attempts_eq around profile s
  rw [h.writePieces_eq_none] at hs
  rw [hcalls, accepted_append, hs.accepted_eq]
  simp [taken]

/-- On a console that takes everything, what stands between the label and the last newline is the
line that is run exactly if the directory is UTF-8. In any case what is written is UTF-8, and the
line opens with the directory octet for octet. -/
theorem shown_as_executed_iff (around : Surroundings σ) (h : around.console.TakesAll)
    (profile : Profile) (s : σ) :
    let dir := (resolve (around.currentDir s)).1
    let calls := attempts around profile s
    (∃ shown, accepted calls =
        Utf8.encode (banner ++ "\n" ++ label) ++ shown ++ Utf8.encode "\n" ∧
      (lines calls = [shown] ↔ Utf8.Valid dir)) ∧
    Utf8.Valid (accepted calls) ∧
    ∃ line, lines calls = [line] ∧ dir <+: line := by
  intro dir calls
  have hacc : accepted calls = Utf8.encode (announcement (command around profile s)) :=
    accepted_attempts h profile s
  have hlines : lines calls = [(command around profile s).line] := lines_attempts around profile s
  refine ⟨⟨_, hacc.trans (encode_announcement _), ?_⟩, ⟨_, hacc.symm⟩, _, hlines, ?_⟩
  · rw [hlines, List.cons.injEq, and_iff_left rfl, eq_comm]
    exact encode_display_eq_line_iff dir profile
  · exact List.prefix_append _ _

/-- a directory that ends in an octet of no encoding, and a console that keeps what it is offered -/
theorem shown_as_executed_iff_of_stray :
    let around := Surroundings.beside (.ok [47, 0xFF])
      (Console.accepting fun bs written => written ++ bs) (Journal.recordingShell (some 0) false)
    let calls := attempts around .bundled ([], Journal.empty)
    around.console.TakesAll ∧
      (∃ shown, accepted calls =
          Utf8.encode (banner ++ "\n" ++ label) ++ shown ++ Utf8.encode "\n" ∧
        (lines calls = [shown] ↔ Utf8.Valid [47, 0xFF])) ∧
      Utf8.Valid (accepted calls) ∧
      ∃ line, lines calls = [line] ∧ [47, 0xFF] <+: line := by
  intro around calls
  have h : around.console.TakesAll := fun _ _ => rfl
  exact ⟨h, shown_as_executed_iff around h .bundled ([], Journal.empty)⟩

end Launch
end JarLauncher
