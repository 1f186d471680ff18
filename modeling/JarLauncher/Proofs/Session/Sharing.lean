import JarLauncher.Proofs.Session.Family

/-! Sessions whose handles share journals. A journal is what a fresh one becomes by the calls of the
steps on its family, in their order; so it does not matter which member of a family a step is
addressed to, and steps on two families may change places. -/

namespace JarLauncher.Session

variable {steps before later : List Step} {x y : Step} {h k : Nat}

/-! Runs, step by step. -/

theorem run_cons (s : Session) (x : Step) (steps : List Step) :
    s.run (x :: steps) = (s.observe x :: ((s.next x).run steps).1, ((s.next x).run steps).2) := rfl

theorem run_append (s : Session) (before later : List Step) :
    s.run (before ++ later) =
      ((s.run before).1 ++ ((s.run before).2.run later).1, ((s.run before).2.run later).2) := by
  induction before generalizing s with
  | nil => rfl
  | cons x before ih => rw [List.cons_append, run_cons, ih, run_cons]; rfl

theorem length_run (s : Session) (steps : List Step) : (s.run steps).1.length = steps.length := by
  induction steps generalizing s with
  | nil => rfl
  | cons x steps ih => rw [run_cons, List.length_cons, ih, List.length_cons]

open scoped Classical in
/-- the steps that make no handle and are addressed to the family of `h` -/
noncomputable def history (steps : List Step) (h : Nat) : List Step :=
  steps.filter fun x => !x.makesHandle && x.handle?.any fun k => decide (Family steps h k)

open scoped Classical in
theorem Situated.history_eq {s : Session} (hs : Situated steps s) (haddr : Addressed steps)
    (hh : h < handleCount steps) : steps.filter (s.actsAt (s.handle h)) = history steps h := by
  refine List.filter_congr fun y hy => ?_
  rw [actsAt]
  cases hhandle : y.handle? with
  | none => rfl
  | some k =>
    have hsame : (s.handle k == s.handle h) = decide (Family steps h k) := by
      rw [Bool.eq_iff_iff, beq_iff_eq, decide_eq_true_iff,
        ← hs.handle_eq_iff hh (haddr.lt_of_mem hy hhandle), eq_comm]
    rw [Option.any_some, Option.any_some, hsame]

theorem journal_eq_history (haddr : Addressed steps) (hh : h < handleCount steps) :
    (start.run steps).2.journal h = held (history steps h) := by
  have hs := situated_run haddr
  rw [hs.journal h hh, hs.history_eq haddr hh]

theorem handles_prefix_next (s : Session) (x : Step) : s.handles <+: (s.next x).handles := by
  cases hx : x.makesHandle
  · obtain ⟨h, hhandle⟩ := Step.exists_handle hx
    rw [next_eq_foldl hx hhandle, handles_foldl_after]
  · cases x with
    | create | clone => exact List.prefix_append _ _
    | write | flush | record | launch => cases hx

theorem handles_prefix_run (s : Session) (steps : List Step) :
    s.handles <+: (s.run steps).2.handles := by
  induction steps generalizing s with
  | nil => exact List.prefix_refl _
  | cons x steps ih => exact (handles_prefix_next s x).trans (ih (s.next x))

/-- a handle goes on naming the cells that it names -/
theorem handle_run {s : Session} (hh : h < s.handles.length) (steps : List Step) :
    (s.run steps).2.handle h = s.handle h := by
  obtain ⟨more, hmore⟩ := handles_prefix_run s steps
  simp only [handle, List.getD_eq_getElem?_getD]
  rw [← hmore, List.getElem?_append_left hh]

/-- Two handles that are there at some time name the same cells then exactly if they are of one
family in the end. -/
theorem handle_eq_iff_family (haddr : Addressed (before ++ later)) (hh : h < handleCount before)
    (hk : k < handleCount before) :
    (start.run before).2.handle h = (start.run before).2.handle k ↔ Family (before ++ later) h k := by
  have hs : Situated before (start.run before).2 := situated_run haddr.of_append
  constructor
  · exact fun hcells => ((hs.handle_eq_iff hh hk).1 hcells).append later
  · intro hfamily
    have hlast := (situated_run haddr).handle_eq hfamily
    rw [run_append] at hlast
    rw [← hs.length] at hh hk
    rwa [handle_run hh, handle_run hk] at hlast

/-- what a step of a session shows -/
theorem shown_run (haddr : Addressed (before ++ x :: later)) :
    (start.run (before ++ x :: later)).1[before.length]? =
      some (x.answer (handleCount before),
        held (history (before ++ [x]) (x.shown (handleCount before)))) := by
  have hs : Situated before (start.run before).2 := situated_run haddr.of_append
  have haddr' : Addressed (before ++ [x]) := by
    rw [List.append_cons] at haddr
    exact haddr.of_append
  have hshown : x.shown (handleCount before) < handleCount (before ++ [x]) := by
    cases hx : x.makesHandle
    · obtain ⟨h, hhandle⟩ := Step.exists_handle hx
      rw [Step.shown_eq hx hhandle, handleCount_concat hx]
      exact haddr.lt hhandle
    · rw [Step.shown_of_makesHandle hx, handleCount_concat_of_makesHandle hx]
      exact Nat.lt_succ_self _
  have hnext : (start.run (before ++ [x])).2 = (start.run before).2.next x := by
    rw [run_append]
    rfl
  rw [run_append, List.getElem?_append_right (Nat.le_of_eq (length_run ..)), length_run, Nat.sub_self,
    run_cons, List.getElem?_cons_zero, observe_eq, hs.length, ← hnext,
    journal_eq_history haddr' hshown]

theorem run_readdress (haddr : Addressed (before ++ x :: later)) (hhandle : x.handle? = some h)
    (hk : k < handleCount before) (hfamily : Family (before ++ x :: later) h k) :
    start.run (before ++ x.readdress k :: later) = start.run (before ++ x :: later) := by
  have hs : Situated before (start.run before).2 := situated_run haddr.of_append
  have hh : h < handleCount before := haddr.lt hhandle
  have hcells := (handle_eq_iff_family haddr hh hk).2 hfamily
  obtain ⟨hshown, hnext⟩ := readdress_of_handle_eq (hs.names h hh) hhandle hcells
  rw [run_append, run_append, run_cons, run_cons, hshown, hnext]

/-- two steps on two families are independent as they come -/
theorem independent_of_not_family (haddr : Addressed (before ++ x :: y :: later))
    (hhx : x.handle? = some h) (hhy : y.handle? = some k)
    (hfamily : ¬ Family (before ++ x :: y :: later) h k)
    (hone : x.makesHandle = false ∨ y.makesHandle = false) :
    (start.run before).2.Independent x y := by
  have hs : Situated before (start.run before).2 := situated_run haddr.of_append
  have hh : h < handleCount before := haddr.lt hhx
  have hk : k < handleCount before := by
    have haddr' := haddr
    rw [List.append_cons] at haddr'
    have hlt := haddr'.lt hhy
    cases hx : x.makesHandle
    · rwa [handleCount_concat hx] at hlt
    · cases x with
      | create | write | flush | record | launch => cases hx <;> cases hhx
      | clone =>
        cases hhx
        -- the handle that the first step makes is of the family of the one it is made of
        have hne : k ≠ handleCount before := by
          rintro rfl
          exact hfamily (.rel _ _ ⟨before, y :: later, rfl, rfl⟩)
        rw [handleCount_concat_of_makesHandle hx] at hlt
        omega
  have hapart := hs.apart_of_ne hh hk (mt (handle_eq_iff_family haddr hh hk).1 hfamily)
  have hnames := hs.names
  rcases hone with hx | hy
  · exact independent_of_apart hx hhx hhy (hnames h hh) (hnames k hk) (hs.length.symm ▸ hh) hapart
  · exact (independent_of_apart hy hhy hhx (hnames k hk) (hnames h hh) (hs.length.symm ▸ hk)
      hapart.symm).symm

/-- steps that are independent as they come may change places -/
theorem run_swap (hxy : (start.run before).2.Independent x y) (later : List Step) :
    ∃ shown shownX shownY rest last, shown.length = before.length ∧
      start.run (before ++ x :: y :: later) = (shown ++ shownX :: shownY :: rest, last) ∧
      start.run (before ++ y :: x :: later) = (shown ++ shownY :: shownX :: rest, last) := by
  let s := (start.run before).2
  let last := ((s.next x).next y).run later
  refine ⟨(start.run before).1, s.observe x, s.observe y, last.1, last.2, length_run _ _, ?_, ?_⟩
  · rw [run_append, run_cons, run_cons, hxy.second]
  · rw [run_append, run_cons, run_cons, hxy.first, ← hxy.next]

/-- After any session, each journal is what a fresh one becomes by the calls of the steps on the
handle's family that make no handle, in their order, also of those from before the handle was made;
and each step answers for itself and shows the journal as it is then. Hence a step may be addressed
to any member of a family that is there, and two adjacent steps on two families may change places,
if one of them makes no handle: the answers, what is shown of the journals, and the session in the
end stay the same. -/
theorem handles_share_by_family {steps : List Step} (haddr : Addressed steps) :
    let last := (start.run steps).2
    (∀ h < handleCount steps, last.journal h =
      Journal.replay Journal.empty ((history steps h).flatMap Step.calls)) ∧
    (∀ before x later, steps = before ++ x :: later →
      (start.run steps).1[before.length]? = some (x.answer (handleCount before),
        Journal.replay Journal.empty
          ((history (before ++ [x]) (x.shown (handleCount before))).flatMap Step.calls))) ∧
    (∀ before x later h k, steps = before ++ x :: later → x.handle? = some h →
      k < handleCount before → Family steps h k →
      start.run (before ++ x.readdress k :: later) = start.run steps) ∧
    ∀ before x y later h k, steps = before ++ x :: y :: later → x.handle? = some h →
      y.handle? = some k → ¬ Family steps h k → x.makesHandle = false ∨ y.makesHandle = false →
      ∃ shown shownX shownY rest, shown.length = before.length ∧
        start.run steps = (shown ++ shownX :: shownY :: rest, last) ∧
        start.run (before ++ y :: x :: later) = (shown ++ shownY :: shownX :: rest, last) := by
  intro last
  refine ⟨fun h hh => journal_eq_history haddr hh, ?_, ?_, ?_⟩
  · rintro before x later rfl
    exact shown_run haddr
  · rintro before x later h k rfl hhandle hk hfamily
    exact run_readdress haddr hhandle hk hfamily
  · rintro before x y later h k rfl hhx hhy hfamily hone
    have hxy := independent_of_not_family haddr hhx hhy hfamily hone
    obtain ⟨shown, shownX, shownY, rest, last', hlength, hrun, hother⟩ := run_swap hxy later
    obtain rfl : last = last' := congrArg Prod.snd hrun
    exact ⟨shown, shownX, shownY, rest, hlength, hrun, hother⟩

/-- A line that is begun through one handle and ended through a clone of its clone, with another
journal in between. -/
theorem handles_share_by_family_of_torn_line :
    let before : List Step := [.write 0 [97], .clone 0, .create, .clone 1, .write 2 [120, 10]]
    let steps : List Step := before ++ [.write 3 [98, 10], .record 2 [121]]
    let last := (start.run steps).2
    Addressed steps ∧ Family steps 3 0 ∧
      last.journal 1 = Journal.replay Journal.empty ((history steps 1).flatMap Step.calls) ∧
      last.journal 1 = ⟨[.output "ab"], []⟩ ∧
      (start.run steps).1[5]? = some (.count 2,
        Journal.replay Journal.empty
          ((history (before ++ [.write 3 [98, 10]]) 3).flatMap Step.calls)) ∧
      start.run (before ++ [.write 0 [98, 10], .record 2 [121]]) = start.run steps ∧
      (start.run (before ++ [.record 2 [121], .write 3 [98, 10]])).2 = last := by
  intro before steps last
  have haddr : Addressed steps := by decide
  have hfirst : Family steps 0 1 := .rel _ _ ⟨[.write 0 [97]], _, rfl, rfl⟩
  have hsecond : Family steps 1 3 := .rel _ _ ⟨[.write 0 [97], .clone 0, .create], _, rfl, rfl⟩
  have hfamily : Family steps 3 0 := .symm _ _ (hfirst.trans _ _ _ hsecond)
  have happart : ¬ Family steps 3 2 := fun h => absurd ((situated_run haddr).handle_eq h) (by decide)
  have hline : Utf8.lossy [97, 98] = "ab" := Utf8.lossy_encode "ab"
  obtain ⟨hheld, hshown, hreaddressed, hswapped⟩ := handles_share_by_family haddr
  refine ⟨haddr, hfamily, hheld 1 (by decide), ?_, ?_, ?_, ?_⟩
  · rw [← hline]
    rfl
  · exact hshown before (.write 3 [98, 10]) _ rfl
  · exact hreaddressed before (.write 3 [98, 10]) _ 3 0 rfl rfl (by decide) hfamily
  · obtain ⟨_, _, _, _, -, hrun, hother⟩ :=
      hswapped before (.write 3 [98, 10]) (.record 2 [121]) [] 3 2 rfl rfl rfl happart (.inl rfl)
    rw [hother]

end JarLauncher.Session
