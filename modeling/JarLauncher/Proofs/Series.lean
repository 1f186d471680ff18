import JarLauncher.Proofs.Guard

/-! Lines run one after another by one caller. Each line finds the dispositions that the first one
found: the caller ignores the interrupts while it waits, the child starts with what was done about
them before, and the caller is left as it was, whatever the system answers. -/

namespace JarLauncher

variable {τ σ : Type}

/-- what a system was asked for, and its answer -/
structure Request where
  line : Bytes
  /-- what the caller did about signals while it waited -/
  waiting : Dispositions
  /-- what the child did about them as it became the interpreter -/
  child : Dispositions
  spawned : Spawned

/-- a system that keeps what it was asked for -/
def Spawner.recorded (spawner : Spawner σ) : Spawner (σ × List Request) where
  start line waiting child s :=
    let (spawned, s') := spawner.start line waiting child s.1
    (spawned, s', s.2 ++ [⟨line, waiting, child, spawned⟩])

namespace SignalTable

/-- a table that keeps all that its process has done about signals since -/
def recorded (table : SignalTable τ) : SignalTable (τ × List Dispositions) where
  dispositions t := table.dispositions t.1
  act s a t :=
    let (previous, t') := table.act s a t.1
    (previous, t', t.2 ++ [table.dispositions t'])

end SignalTable

namespace Guard

/-- Ignoring some signals one by one, with every table in between kept: what comes of it is the
same, and only those signals are touched. -/
theorem foldl_ignore_recorded (l : List Signal) (g : Guard) (d : Dispositions)
    (past : List Dispositions) :
    ∃ passed, l.foldl (ignore SignalTable.own.recorded) (g, d, past) =
        ((l.foldl (ignore .own) (g, d)).1, (l.foldl (ignore .own) (g, d)).2, past ++ passed) ∧
      passed.length = l.length ∧ ∀ x ∈ passed, ∀ t ∉ l, x t = d t := by
  induction l generalizing g d past with
  | nil => exact ⟨[], by simp, rfl, nofun⟩
  | cons s l ih =>
    let next := d.set s .ignored
    obtain ⟨passed, hrun, hlength, hother⟩ := ih ⟨g.saved ++ [(s, d s)]⟩ next (past ++ [next])
    refine ⟨next :: passed, ?_, by rw [List.length_cons, hlength, List.length_cons], ?_⟩
    · rw [List.append_cons]
      exact hrun
    · intro x hx t ht
      obtain ⟨hts, htl⟩ := not_or.1 (mt List.mem_cons.2 ht)
      have hnext : next t = d t := d.set_other .ignored hts
      rcases List.mem_cons.1 hx with rfl | hx
      · exact hnext
      · exact (hother x hx t htl).trans hnext

/-- so it is with putting back -/
theorem foldl_restore_recorded (pairs : List (Signal × Disposition)) (d : Dispositions)
    (past : List Dispositions) :
    ∃ passed, pairs.foldl (fun t (s, a) => (SignalTable.own.recorded.act s a t).2) (d, past) =
        (d.restored pairs, past ++ passed) ∧
      passed.length = pairs.length ∧ ∀ x ∈ passed, ∀ t ∉ pairs.map Prod.fst, x t = d t := by
  induction pairs generalizing d past with
  | nil => exact ⟨[], by simp [Dispositions.restored], rfl, nofun⟩
  | cons p pairs ih =>
    let next := d.set p.1 p.2
    obtain ⟨passed, hrun, hlength, hother⟩ := ih next (past ++ [next])
    refine ⟨next :: passed, ?_, by rw [List.length_cons, hlength, List.length_cons], ?_⟩
    · rw [List.append_cons]
      exact hrun
    · intro x hx t ht
      obtain ⟨htp, htl⟩ := not_or.1 (mt List.mem_cons.2 ht)
      have hnext : next t = d t := d.set_other p.2 htp
      rcases List.mem_cons.1 hx with rfl | hx
      · exact hnext
      · exact (hother x hx t htl).trans hnext

theorem engage_recorded (d : Dispositions) (past : List Dispositions) :
    ∃ passed, engage SignalTable.own.recorded (d, past) =
        ((engage .own d).1, (engage .own d).2, past ++ passed) ∧
      passed.length = 2 ∧ ∀ x ∈ passed, ∀ t, t ≠ .int → t ≠ .quit → x t = d t := by
  obtain ⟨passed, hrun, hlength, hother⟩ := foldl_ignore_recorded interrupts ⟨[]⟩ d past
  refine ⟨passed, hrun, hlength, fun x hx t hint hquit => hother x hx t ?_⟩
  exact mt mem_interrupts.1 (not_or.2 ⟨hint, hquit⟩)

theorem restore_recorded (d : Dispositions) (past : List Dispositions) :
    ∃ passed, (engage .own d).1.restore SignalTable.own.recorded ((engage .own d).2, past) =
        (d, past ++ passed) ∧
      passed.length = 2 ∧ ∀ x ∈ passed, ∀ t, t ≠ .int → t ≠ .quit → x t = d t := by
  obtain ⟨passed, hrun, hlength, hother⟩ :=
    foldl_restore_recorded (engage .own d).1.saved.reverse (engage .own d).2 past
  refine ⟨passed, ?_, ?_, fun x hx t hint hquit => ?_⟩
  · rw [restored_saved_reverse] at hrun
    exact hrun
  · rw [hlength, List.length_reverse, saved_engage]
    rfl
  · have ht : ¬ (t = .int ∨ t = .quit) := not_or.2 ⟨hint, hquit⟩
    refine (hother x hx t fun hmem => ht ?_).trans (engage_other d ht)
    rw [List.map_reverse, List.mem_reverse, saved_engage, List.map_map] at hmem
    exact mem_interrupts.1 (by simpa using hmem)

end Guard

namespace Interpreter

def series (table : SignalTable τ) (spawner : Spawner σ) :
    List Bytes → τ × σ → List (Except LaunchError Outcome) × (τ × σ)
  | [], s => ([], s)
  | line :: lines, s =>
    let (answer, s) := execute table spawner line s
    let (answers, s) := series table spawner lines s
    (answer :: answers, s)

/-- one line: the system is asked with the interrupts ignored, and nothing of that is left -/
theorem execute_eq (spawner : Spawner σ) (line : Bytes) (d : Dispositions) (s : σ) :
    let waiting := (Guard.engage .own d).2
    execute .own spawner line (d, s) =
      (outcome (spawner.start line waiting d s).1, d, (spawner.start line waiting d s).2) := by
  intro waiting
  have hchild : (Guard.engage .own d).1.restoreInChild waiting = d := Guard.restoreInChild_engage d
  have hcaller : (Guard.engage .own d).1.restore .own waiting = d := Guard.restore_engage d
  calc
    execute .own spawner line (d, s)
    _ = (outcome (spawner.start line waiting ((Guard.engage .own d).1.restoreInChild waiting) s).1,
          (Guard.engage .own d).1.restore .own waiting,
          (spawner.start line waiting ((Guard.engage .own d).1.restoreInChild waiting) s).2) := rfl
    _ = _ := by rw [hchild, hcaller]

/-- the interpreter's errors name it -/
theorem outcome_eq_error {spawned : Spawned} {e : LaunchError} (h : outcome spawned = .error e) :
    ∃ cause : IoError, e = .shellSpawn "/bin/sh" cause.text := by
  cases spawned with
  | refused cause => exact ⟨cause, (Except.error.inj h).symm⟩
  | ended code => cases h

theorem runner_execute (spawner : Spawner σ) (line : Bytes) (d : Dispositions) (s : σ) :
    let asked := spawner.start line (Guard.engage .own d).2 d s
    (runner spawner).execute line (d, s) =
      ((outcome asked.1, [.spawning program line]), d, asked.2) := by
  intro asked
  simp only [runner, execute_eq]
  rfl

/-- The same with every table in between kept: four of them, in which other signals are as they
were. -/
theorem execute_recorded (spawner : Spawner σ) (line : Bytes) (d : Dispositions)
    (past : List Dispositions) (s : σ) :
    let waiting := (Guard.engage .own d).2
    ∃ passed, execute SignalTable.own.recorded spawner line ((d, past), s) =
        (outcome (spawner.start line waiting d s).1, (d, past ++ passed),
          (spawner.start line waiting d s).2) ∧
      passed.length = 4 ∧ ∀ x ∈ passed, ∀ t, t ≠ .int → t ≠ .quit → x t = d t := by
  intro waiting
  obtain ⟨before, hengage, hbefore, hkept⟩ := Guard.engage_recorded d past
  obtain ⟨behind, hrestore, hbehind, hkept'⟩ := Guard.restore_recorded d (past ++ before)
  have hchild : (Guard.engage .own d).1.restoreInChild waiting = d := Guard.restoreInChild_engage d
  refine ⟨before ++ behind, ?_, by rw [List.length_append, hbefore, hbehind], ?_⟩
  · rw [execute, hengage]
    change (outcome (spawner.start line waiting ((Guard.engage .own d).1.restoreInChild waiting) s).1,
      (Guard.engage .own d).1.restore SignalTable.own.recorded (waiting, past ++ before),
      (spawner.start line waiting ((Guard.engage .own d).1.restoreInChild waiting) s).2) = _
    rw [hchild, hrestore, List.append_assoc]
  · intro x hx
    rcases List.mem_append.1 hx with hx | hx
    · exact hkept x hx
    · exact hkept' x hx

theorem series_cons (spawner : Spawner σ) (line : Bytes) (lines : List Bytes) (d : Dispositions)
    (s : σ) :
    let first := spawner.start line (Guard.engage .own d).2 d s
    series .own spawner (line :: lines) (d, s) =
      (outcome first.1 :: (series .own spawner lines (d, first.2)).1,
        (series .own spawner lines (d, first.2)).2) := by
  intro first
  rw [series, execute_eq]

theorem series_dispositions (spawner : Spawner σ) (lines : List Bytes) (d : Dispositions) (s : σ) :
    (series .own spawner lines (d, s)).2.1 = d := by
  induction lines generalizing s with
  | nil => rfl
  | cons line lines ih => rw [series_cons]; exact ih _

/-- Keeping the tables and the requests changes nothing of what is answered. There is one request
for each line, and all of them are made with the same dispositions. -/
theorem series_recorded (spawner : Spawner σ) (lines : List Bytes) (d : Dispositions) (s : σ)
    (past : List Dispositions) (before : List Request) :
    ∃ passed requests,
      series SignalTable.own.recorded spawner.recorded lines ((d, past), s, before) =
        ((series .own spawner lines (d, s)).1, (d, past ++ passed),
          (series .own spawner lines (d, s)).2.2, before ++ requests) ∧
      passed.length = 4 * lines.length ∧
      (∀ x ∈ passed, ∀ t, t ≠ .int → t ≠ .quit → x t = d t) ∧
      requests.map Request.line = lines ∧
      (∀ r ∈ requests, r.waiting = (Guard.engage .own d).2 ∧ r.child = d) ∧
      (series .own spawner lines (d, s)).1 = requests.map fun r => outcome r.spawned := by
  induction lines generalizing s past before with
  | nil => exact ⟨[], [], by simp [series], rfl, nofun, rfl, nofun, rfl⟩
  | cons line lines ih =>
    let waiting := (Guard.engage .own d).2
    let first := spawner.start line waiting d s
    let request : Request := ⟨line, waiting, d, first.1⟩
    obtain ⟨now, hfirst, hnow, hkept⟩ :=
      execute_recorded spawner.recorded line d past (s, before)
    obtain ⟨later, requests, hrun, hlater, hkept', hlines, hall, hanswers⟩ :=
      ih first.2 (past ++ now) (before ++ [request])
    refine ⟨now ++ later, request :: requests, ?_, ?_, ?_, ?_, ?_, ?_⟩
    · rw [series, hfirst, series_cons]
      refine (congrArg (fun run => (outcome first.1 :: run.1, run.2)) hrun).trans ?_
      rw [List.append_assoc, List.append_assoc]
      rfl
    · rw [List.length_append, hnow, hlater, List.length_cons]
      omega
    · intro x hx
      rcases List.mem_append.1 hx with hx | hx
      · exact hkept x hx
      · exact hkept' x hx
    · rw [List.map_cons, hlines]
    · exact List.forall_mem_cons.2 ⟨⟨rfl, rfl⟩, hall⟩
    · rw [series_cons, List.map_cons]
      exact congrArg _ hanswers

/-- For every system and every series of lines: after each line the caller's dispositions are the
initial ones, and in none of the tables that it has had meanwhile is another signal's changed; while
it waits it ignores both interrupts; each child starts with what was done about them initially; and
each answer is that of its own request, an error that names the interpreter exactly if the start was
refused. -/
theorem series_bracketed (spawner : Spawner σ) (lines : List Bytes) (d : Dispositions) (s : σ) :
    let run := series SignalTable.own.recorded spawner.recorded lines ((d, []), s, [])
    let tables := run.2.1.2
    let requests := run.2.2.2
    run.1 = (series .own spawner lines (d, s)).1 ∧
    (∀ n, (series .own spawner (lines.take n) (d, s)).2.1 = d) ∧
    tables.length = 4 * lines.length ∧
    (∀ x ∈ tables, ∀ t, t ≠ .int → t ≠ .quit → x t = d t) ∧
    requests.map Request.line = lines ∧
    (∀ r ∈ requests, r.waiting .int = .ignored ∧ r.waiting .quit = .ignored ∧
      (∀ t, t ≠ .int → t ≠ .quit → r.waiting t = d t) ∧
      r.child .int = d .int ∧ r.child .quit = d .quit) ∧
    run.1.length = lines.length ∧
    ∀ (n : Nat) (r : Request) (answer : Except LaunchError Outcome),
      requests[n]? = some r → run.1[n]? = some answer →
      (∀ cause, r.spawned = .refused cause → answer = .error (.shellSpawn "/bin/sh" cause.text)) ∧
      ∀ code, r.spawned = .ended code → answer = .ok ⟨code⟩ := by
  intro run tables requests
  obtain ⟨passed, asked, hrun, hpassed, hkept, hlines, hall, hanswers⟩ :=
    series_recorded spawner lines d s [] []
  have htables : tables = passed := congrArg (·.2.1.2) hrun
  have hasked : requests = asked := congrArg (·.2.2.2) hrun
  have hrecorded : run.1 = (series .own spawner lines (d, s)).1 := congrArg Prod.fst hrun
  rw [htables, hasked, hrecorded]
  refine ⟨rfl, fun n => series_dispositions spawner _ d s, hpassed, hkept, hlines, ?_, ?_, ?_⟩
  · intro r hr
    obtain ⟨hwaiting, hchild⟩ := hall r hr
    rw [hwaiting, hchild]
    refine ⟨Guard.engage_ignored d (.inl rfl), Guard.engage_ignored d (.inr rfl), ?_, rfl, rfl⟩
    exact fun t hint hquit => Guard.engage_other d (not_or.2 ⟨hint, hquit⟩)
  · rw [hanswers, List.length_map, ← hlines, List.length_map]
  · intro n r answer hr hanswer
    rw [hanswers, List.getElem?_map, hr] at hanswer
    obtain rfl := Option.some.inj hanswer
    exact ⟨fun _ h => congrArg outcome h, fun _ h => congrArg outcome h⟩

/-- A handler for one interrupt and the other ignored: the first line is refused, the second ends
with a code and the third by a signal. -/
theorem series_bracketed_of_handler :
    let d := (Dispositions.initial.set .int (.handler 7)).set .quit .ignored
    let cause : IoError := .custom .invalidInput "nul byte found in provided data"
    let spawner : Spawner Nat := ⟨fun line _ _ n =>
      (if line.contains 0 then .refused cause else .ended (if n = 1 then some 3 else none), n + 1)⟩
    let lines : List Bytes := [[0], [97], [98]]
    let run := series SignalTable.own.recorded spawner.recorded lines ((d, []), 0, [])
    (series .own spawner lines (d, 0)).2.1 = d ∧ run.2.1.2.length = 12 ∧
      (∀ r ∈ run.2.2.2, r.waiting .int = .ignored ∧ r.waiting .quit = .ignored ∧
        r.waiting .term = .default ∧ r.child .int = .handler 7 ∧ r.child .quit = .ignored) ∧
      run.1 = [.error (.shellSpawn "/bin/sh" "nul byte found in provided data"), .ok ⟨some 3⟩,
        .ok ⟨none⟩] := by
  intro d cause spawner lines run
  obtain ⟨-, hleft, htables, -, -, hrequests, -, -⟩ := series_bracketed spawner lines d 0
  refine ⟨hleft 3, htables, fun r hr => ?_, rfl⟩
  obtain ⟨hint, hquit, hother, hchild, hchild'⟩ := hrequests r hr
  exact ⟨hint, hquit, hother .term (by decide) (by decide), hchild, hchild'⟩

end Interpreter
end JarLauncher
