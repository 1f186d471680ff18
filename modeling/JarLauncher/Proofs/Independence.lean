import JarLauncher.Beside
import JarLauncher.Proofs.Announcement

/-! What a launch answers hangs on the shell alone. A console that is apart from the shell leaves
the shell's state as it was, however it behaves; and a directory that cannot be found is the empty
one in all but the log. -/

namespace JarLauncher

variable {σ τ : Type}

namespace Console

theorem onFirst_write (console : Console σ) (t : τ) {bs : Bytes} {s s' : σ} {w : Written}
    (h : console.write bs s = (w, s')) : console.onFirst.write bs (s, t) = (w, s', t) := by
  simp [onFirst, h]

theorem writeAll_onFirst (console : Console σ) (bs : Bytes) (s : σ) (t : τ) :
    console.onFirst.writeAll bs (s, t) =
      ((console.writeAll bs s).1, (console.writeAll bs s).2, t) := by
  fun_induction console.writeAll bs s with
  | case1 s => simp
  | case2 s b rest s' h => exact writeAll_refused _ (by simp) (console.onFirst_write t h)
  | case3 s b rest n s' h ih =>
    rw [writeAll_accepted _ (by simp) (console.onFirst_write t h), List.drop_succ_cons, ih]
  | case4 s b rest e s' h he _ ih =>
    rw [writeAll_interrupted _ (by simp) (console.onFirst_write t h) he, ih]
  | case5 s b rest e s' h he =>
    exact writeAll_failed _ (by simp) (console.onFirst_write t h) (by simpa using he)

theorem writePieces_onFirst (console : Console σ) (pieces : List Bytes) (s : σ) (t : τ) :
    console.onFirst.writePieces pieces (s, t) =
      ((console.writePieces pieces s).1, (console.writePieces pieces s).2, t) := by
  induction pieces generalizing s with
  | nil => rfl
  | cons piece pieces ih =>
    simp only [writePieces, writeAll_onFirst]
    rcases console.writeAll piece s with ⟨_ | e, s'⟩
    · exact ih s'
    · rfl

end Console

namespace Launch

open Attempt

theorem announce_onFirst (console : Console σ) (c : Command) (s : σ) (t : τ) :
    announce console.onFirst c (s, t) =
      ((announce console c s).1, (announce console c s).2, t) := by
  simp only [announce, Console.writePieces_onFirst]
  rcases console.writePieces (pieces c) s with ⟨_ | e, s'⟩ <;> rfl

theorem execute_beside (found : Except LaunchError Bytes) (console : Console σ) (shell : Runner τ)
    (profile : Profile) (s : σ) (t : τ) :
    let c := Command.ofDir (resolve found).1 profile
    let launch := execute (.beside found console shell) profile (s, t)
    launch.result = (shell.execute c.line t).1.1.map (Report.mk c) ∧
      launch.state = ((announce console c s).2, (shell.execute c.line t).2) := by
  simp [execute, Surroundings.beside, announce_onFirst, Runner.onSecond]

/-- without a directory the launch goes on as from the empty one; only the log tells -/
theorem execute_of_missing (around : Surroundings σ) (profile : Profile) (s : σ) {e : LaunchError}
    (h : around.currentDir s = .error e) :
    let launch := execute { around with currentDir := fun _ => .ok [] } profile s
    execute around profile s =
      { launch with log := .directoryMissing e.message :: launch.log } := by
  simp [execute, h, resolve]

/-- a report is there exactly if the shell has an outcome -/
theorem map_eq_ok_iff {c : Command} {answer : Except LaunchError Outcome} {report : Report} :
    answer.map (Report.mk c) = .ok report ↔
      ∃ outcome, answer = .ok outcome ∧ report = ⟨c, outcome⟩ := by
  cases answer <;> simp [Except.map, eq_comm]

theorem map_eq_error_iff {c : Command} {answer : Except LaunchError Outcome} {e : LaunchError} :
    answer.map (Report.mk c) = .error e ↔ answer = .error e := by
  cases answer <;> simp [Except.map]

theorem line_eq (dir : Bytes) (profile : Profile) :
    (Command.ofDir dir profile).line = dir ++ Utf8.encode profile.path ++ Utf8.encode " " ++
      Utf8.encode profile.flags ++ Utf8.encode " " ++ Utf8.encode profile.jar := by
  simp [Profile.text]

/-- Any two consoles beside the same shell: the shell runs the same line and leaves the same state,
and the launch answers with the shell's outcome or with its very error. A directory that was not
found might as well have been empty. -/
theorem result_ignores_console {σ₁ σ₂ : Type} (found : Except LaunchError Bytes) (profile : Profile)
    (shell : Runner τ) (t : τ) (console₁ : Console σ₁) (s₁ : σ₁) (console₂ : Console σ₂) (s₂ : σ₂) :
    let around₁ := Surroundings.beside found console₁ shell
    let around₂ := Surroundings.beside found console₂ shell
    let launch₁ := execute around₁ profile (s₁, t)
    let launch₂ := execute around₂ profile (s₂, t)
    let c := Command.ofDir (resolve found).1 profile
    let answer := (shell.execute c.line t).1.1
    lines (attempts around₁ profile (s₁, t)) = [c.line] ∧
    lines (attempts around₂ profile (s₂, t)) = [c.line] ∧
    launch₁.result = launch₂.result ∧ launch₁.state.2 = launch₂.state.2 ∧
    (∀ report, launch₁.result = .ok report ↔
      ∃ outcome, answer = .ok outcome ∧ report = ⟨c, outcome⟩) ∧
    (∀ e, launch₁.result = .error e ↔ answer = .error e) ∧
    (∀ report, launch₁.result = .ok report →
      lines (attempts around₁ profile (s₁, t)) = [report.command.line] ∧
      report.command.dir = (resolve found).1 ∧
      report.command.line = (resolve found).1 ++ Utf8.encode profile.path ++ Utf8.encode " " ++
        Utf8.encode profile.flags ++ Utf8.encode " " ++ Utf8.encode profile.jar) ∧
    ∀ e, found = .error e →
      let empty := Surroundings.beside (.ok []) console₁ shell
      attempts empty profile (s₁, t) = attempts around₁ profile (s₁, t) ∧
      (execute empty profile (s₁, t)).result = launch₁.result ∧
      launch₁.log = .directoryMissing e.message :: (execute empty profile (s₁, t)).log := by
  intro around₁ around₂ launch₁ launch₂ c answer
  obtain ⟨hr₁, hs₁⟩ := execute_beside found console₁ shell profile s₁ t
  obtain ⟨hr₂, hs₂⟩ := execute_beside found console₂ shell profile s₂ t
  have hlines₁ : lines (attempts around₁ profile (s₁, t)) = [c.line] := lines_attempts _ _ _
  refine ⟨hlines₁, lines_attempts _ _ _, hr₁.trans hr₂.symm, ?_, ?_, ?_, ?_, ?_⟩
  · exact (congrArg Prod.snd hs₁).trans (congrArg Prod.snd hs₂).symm
  · intro report
    rw [hr₁]
    exact map_eq_ok_iff
  · intro e
    rw [hr₁]
    exact map_eq_error_iff
  · intro report hreport
    obtain ⟨outcome, -, rfl⟩ := map_eq_ok_iff.1 (hr₁.symm.trans hreport)
    exact ⟨hlines₁, rfl, line_eq _ profile⟩
  · intro e he empty
    have hrun := execute_of_missing around₁ profile (s₁, t) he
    have hrec := execute_of_missing around₁.recorded profile ((s₁, t), []) he
    refine ⟨?_, ?_, ?_⟩
    · exact (congrArg (fun r => r.state.2) hrec).symm
    · exact (congrArg Run.result hrun).symm
    · exact congrArg Run.log hrun

end Launch
end JarLauncher
