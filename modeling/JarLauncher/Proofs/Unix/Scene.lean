import JarLauncher.Proofs.Cli
import JarLauncher.Proofs.Quoting
import JarLauncher.Proofs.Series
import JarLauncher.Unix.Scene

/-! Launchers on a whole system. Whatever its processes and its tools do meanwhile, each line leaves
the launcher's dispositions as they were, a launch answers with what became of its interpreter, and
a command ends by a signal, with 0, or with the code of a setting that cannot be read. -/

namespace JarLauncher

/-! ### Directories -/

namespace FileTree

theorem head?_pathFrom (t : FileTree) (fuel : Nat) (n : Id) {path : Bytes}
    (h : t.pathFrom fuel n = some path) : path = [] ∨ path.head? = some 47 := by
  induction fuel generalizing n path with
  | zero => cases h
  | succ fuel ih =>
    unfold pathFrom at h
    split at h
    · exact .inl (Option.some.inj h).symm
    split at h
    · cases h
    · simp only [Option.bind_eq_bind, Option.bind_eq_some_iff, Option.pure_def,
        Option.some.injEq] at h
      obtain ⟨above, habove, name, -, rfl⟩ := h
      rcases ih _ habove with rfl | hroot
      · exact .inr rfl
      · exact .inr (by simp [List.head?_append, hroot])

/-- a directory's path goes from the root -/
theorem head?_pathOf (t : FileTree) (n : Id) {path : Bytes} (h : t.pathOf n = .ok path) :
    path.head? = some 47 := by
  unfold pathOf at h
  split at h
  next => cases h
  next => cases h; rfl
  next found hne hfound =>
    cases h
    exact (t.head?_pathFrom _ n hfound).resolve_left hne

end FileTree

namespace Unix

theorem Launcher.head?_currentDir (l : Launcher) {dir : Bytes} (h : l.currentDir = .ok dir) :
    dir.head? = some 47 := by
  unfold currentDir at h
  split at h
  next path hpath =>
    cases h
    exact FileTree.head?_pathOf _ _ hpath
  next => cases h

/-- Wherever a launcher is, also where its directory was removed: unless that is warned about, the
shell takes the bundled line as it stands exactly if there is neither a backslash nor an opening
bracket in the directory. -/
theorem Launcher.hasFields_line_iff (l : Launcher) :
    let c := Command.ofDir (Launch.resolve l.currentDir).1 .bundled
    c.needsQuoting = false →
      (Shell.HasFields c.line [c.dir ++ Utf8.encode "/jre/bin/java",
          Utf8.encode "--enable-preview", Utf8.encode "sequencer.jar"] ↔
        92 ∉ c.dir ∧ 91 ∉ c.dir) := by
  intro c hquote
  cases hfound : l.currentDir with
  | ok dir =>
    have hc : c = Command.ofDir dir .bundled := by simp only [c, hfound, Launch.resolve]
    rw [hc] at hquote ⊢
    exact Command.hasFields_unquoted_iff Command.plain_bundled hquote (l.head?_currentDir hfound)
  | error e =>
    have hc : c = Command.ofDir [] .bundled := by simp only [c, hfound, Launch.resolve]
    rw [hc]
    exact iff_of_true (Command.hasFields_of_nil Command.plain_bundled (by decide))
      ⟨List.not_mem_nil, List.not_mem_nil⟩

/-! ### Lines -/

namespace Launcher

/-- A line with a NUL in it is refused before anything is done. -/
theorem start_of_nul {line : Bytes} (h : 0 ∈ line) (waiting child : Dispositions) (l : Launcher) :
    spawner.start line waiting child l = (.refused nulByte, l) := by
  simp [spawner, h]

/-- a launcher that is refused a child is as it was -/
theorem start_of_refused {line : Bytes} {waiting child : Dispositions} {l l' : Launcher}
    {cause : IoError} (h : spawner.start line waiting child l = (.refused cause, l')) : l' = l := by
  unfold spawner at h
  simp only at h
  split at h
  · exact (Prod.mk.inj h).2.symm
  · split at h
    · exact (Prod.mk.inj h).2.symm
    · cases h

end Launcher

namespace Scene

/-- what comes of running a line, whatever is run -/
structure LineRun.Bracketed (ignored : List Signal) (run : LineRun) (line : Bytes) : Prop where
  after : run.after = dispositions ignored
  log : run.log = [.spawning "/bin/sh" line]
  nul : 0 ∈ line → run.answer = .error (.shellSpawn "/bin/sh" "nul byte found in provided data")
  error : ∀ e, run.answer = .error e → ∃ cause : IoError, e = .shellSpawn "/bin/sh" cause.text

theorem bracketed_runLine (s : Scene) (ignored : List Signal) (line : Bytes) :
    (s.runLine ignored line).Bracketed ignored line := by
  have hrun := Interpreter.runner_execute Launcher.spawner line (dispositions ignored)
    (s.start .captured environment).launcher
  constructor
  · simp only [runLine, hrun]
  · simp only [runLine, hrun]
    rfl
  · intro hnul
    simp only [runLine, hrun, Launcher.start_of_nul hnul]
    rfl
  · intro e he
    simp only [runLine, hrun] at he
    exact Interpreter.outcome_eq_error he

/-- Every line of a series is bracketed, on whatever system the lines before it have left. -/
theorem bracketed_runLines (s : Scene) (ignored : List Signal) (lines : List Bytes) :
    List.Forall₂ (LineRun.Bracketed ignored) (s.runLines ignored lines).1 lines := by
  induction lines generalizing s with
  | nil => exact .nil
  | cons line lines ih => exact .cons (s.bracketed_runLine ignored line) (ih _)

/-- a line that is refused leaves the system as the launcher found it -/
theorem scene_runLine_of_error (s : Scene) (ignored : List Signal) (line : Bytes) {e : LaunchError}
    (h : (s.runLine ignored line).answer = .error e) :
    (s.runLine ignored line).scene =
      s.withMachine (s.start .captured environment).launcher.machine := by
  have hrun := Interpreter.runner_execute Launcher.spawner line (dispositions ignored)
    (s.start .captured environment).launcher
  simp only [runLine, hrun] at h ⊢
  cases hstart : Launcher.spawner.start line (Guard.engage .own (dispositions ignored)).2
    (dispositions ignored) (s.start .captured environment).launcher with
  | mk spawned l =>
    rw [hstart] at h
    cases spawned with
    | refused cause => rw [Launcher.start_of_refused hstart]
    | ended code => cases h

/-! ### Launches -/

/-- A launch runs the line of the directory that its launcher is in, and answers with what became of
the interpreter, whatever is held by the system and whatever the interpreter runs. -/
theorem launch_result (s : Scene) (profile : Profile) :
    let found := (s.start .captured environment).launcher.currentDir
    let c := Command.ofDir (Launch.resolve found).1 profile
    let result := (s.launch profile).result
    (∀ report, result = .ok report → report.command = c) ∧
    (∀ e, result = .error e → ∃ cause : IoError, e = .shellSpawn "/bin/sh" cause.text) ∧
    (0 ∈ c.line → result = .error (.shellSpawn "/bin/sh" "nul byte found in provided data")) := by
  intro found c result
  let around := Launcher.surroundings
  let start := (dispositions [], (s.start .captured environment).launcher)
  obtain ⟨d, l, hshown⟩ : ∃ d l, (Launch.announce around.console c start).2 = (d, l) := ⟨_, _, rfl⟩
  have hresult : result = ((Interpreter.outcome
      (Launcher.spawner.start c.line (Guard.engage .own d).2 d l).1).map (Report.mk c)) := by
    refine (Launch.execute_result around profile start).trans ?_
    change (((Interpreter.runner Launcher.spawner).execute c.line
      (Launch.announce around.console c start).2).1.1).map _ = _
    rw [hshown, Interpreter.runner_execute]
    rfl
  rw [hresult]
  refine ⟨?_, ?_, ?_⟩
  · intro report hreport
    obtain ⟨outcome, -, rfl⟩ := Launch.map_eq_ok_iff.1 hreport
    rfl
  · exact fun e he => Interpreter.outcome_eq_error (Launch.map_eq_error_iff.1 he)
  · intro hnul
    rw [Launcher.start_of_nul hnul]
    rfl

/-! ### Commands -/

/-- the setting that a command is run with -/
def Invocation.setting (i : Invocation) : Option Bytes := i.variables.lookup settingName

theorem report_nil (l : Launcher) : report l [] = l := by
  unfold report
  split <;> rfl

/-- A command that no signal ends is over with 0, or with the code of a setting whose reading breaks
off. -/
theorem exited_runCommand (s : Scene) (i : Invocation) {code : Nat}
    (h : (s.runCommand i).ending = .exited code) :
    (Cli.Setup.standard.readFilter i.setting ≠ .broken → code = 0) ∧
      (Cli.Setup.standard.readFilter i.setting = .broken → code = 101) := by
  have hsetting : i.variables.lookup settingName = i.setting := rfl
  unfold runCommand at h
  simp only [hsetting] at h
  split at h
  · cases h
  · obtain rfl := Ending.exited.inj h
    refine ⟨fun hreading => (Cli.Setup.run_of_ne_broken hreading _ _ _).1, fun hreading => ?_⟩
    rw [Cli.Setup.run_of_broken hreading]
    rfl

/-- if the reading of its setting breaks off, a command runs nothing -/
theorem scene_runCommand_of_broken (s : Scene) (i : Invocation)
    (h : Cli.Setup.standard.readFilter i.setting = .broken) :
    (s.runCommand i).scene = s.withMachine (s.start i.sink i.variables).launcher.machine := by
  have hsetting : i.variables.lookup settingName = i.setting := rfl
  simp only [runCommand, hsetting, Cli.Setup.run_of_broken h, List.filter_nil, report_nil]

theorem exited_runCommands (s : Scene) (i : Invocation) (n : Nat) :
    (s.runCommands i n).1.length = n ∧
      ∀ run ∈ (s.runCommands i n).1, ∀ code, run.ending = .exited code →
        (Cli.Setup.standard.readFilter i.setting ≠ .broken → code = 0) ∧
          (Cli.Setup.standard.readFilter i.setting = .broken → code = 101) := by
  induction n generalizing s with
  | zero => exact ⟨rfl, nofun⟩
  | succ n ih =>
    obtain ⟨hlength, hrest⟩ := ih (s.runCommand i).scene
    refine ⟨congrArg (· + 1) hlength, List.forall_mem_cons.2 ⟨?_, hrest⟩⟩
    exact fun code h => s.exited_runCommand i h

/-- Arguments reach nothing but the log: where its filter does not show them, each run of a series
writes the same, ends the same way and leaves the same system with any others. -/
theorem runCommands_args (s : Scene) (i : Invocation) (args : List Bytes) (n : Nat)
    (h : ∀ shows, Cli.Setup.standard.readFilter i.setting = .filter shows →
      ∀ count, shows (.argumentsIgnored count) = false) :
    s.runCommands { i with args := args } n = s.runCommands i n := by
  have hrun (s : Scene) : s.runCommand { i with args := args } = s.runCommand i := by
    have hvariables : { i with args := args }.variables = i.variables := rfl
    have hargs (around : Surroundings (Dispositions × Launcher)) (start : Dispositions × Launcher) :
        Cli.Setup.standard.run around args (i.variables.lookup settingName) start =
          Cli.Setup.standard.run around i.args (i.variables.lookup settingName) start :=
      Cli.Setup.run_args h ..
    simp only [runCommand, hvariables, hargs]
  induction n generalizing s with
  | zero => rfl
  | succ n ih => rw [runCommands, runCommands, hrun, ih]

end Scene
end Unix
end JarLauncher
