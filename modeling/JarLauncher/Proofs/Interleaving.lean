import JarLauncher.Interleaving
import JarLauncher.Proofs.Series

/-! Interrupts at any time while a line is run. A launcher that has a child ignores them, so they
neither end it nor hold it up; the interpreter is ended by one unless it was ignored from the
beginning, and then that is the answer. All of this is read off the situations that a run can come
to. -/

namespace JarLauncher

/-- a process can do something about each interrupt, and if it does nothing, each ends it -/
theorem Signal.ends_of_interrupt {s : Signal} (h : s = .int ∨ s = .quit) :
    ¬ (s = .kill ∨ s = .stop) ∧ s ∉ harmless ∧ s ∉ stopping := by
  rcases h with rfl | rfl <;> decide

namespace Dispositions

/-- an interrupt ends a process exactly if nothing else was done about it -/
theorem effect_interrupt_eq_ended_iff (d : Dispositions) {s : Signal} (h : s = .int ∨ s = .quit) :
    d.effect s = .ended ↔ d s = .default := by
  obtain ⟨hnext, hharm, hstop⟩ := Signal.ends_of_interrupt h
  unfold effect
  rw [if_neg hnext]
  cases d s <;> simp [hharm, hstop]

theorem afterExec_eq_default_iff (d : Dispositions) (s : Signal) :
    d.afterExec s = .default ↔ d s ≠ .ignored := by
  unfold afterExec
  cases d s <;> simp

end Dispositions

namespace Interleaving

/-- The situations that a run comes to, with what came of the child once that is certain. -/
inductive Situation (entry : Dispositions) : Option Spawned → State → Prop
  | ignoring (done) {left} (h : Guard.interrupts = done ++ left) :
      Situation entry none ⟨.ignoring (done.foldl (Guard.ignore .own) (⟨[]⟩, entry)).1 left,
        (done.foldl (Guard.ignore .own) (⟨[]⟩, entry)).2, none⟩
  | starting (done) {left} (h : (Guard.engage .own entry).1.saved = done ++ left) :
      Situation entry none ⟨.waiting (Guard.engage .own entry).1, (Guard.engage .own entry).2,
        some (.restoring left, (Guard.engage .own entry).2.restored done)⟩
  | running :
      Situation entry none ⟨.waiting (Guard.engage .own entry).1, (Guard.engage .own entry).2,
        some (.interpreter, entry.afterExec)⟩
  | gone (spawned d) :
      Situation entry (some spawned) ⟨.waiting (Guard.engage .own entry).1, (Guard.engage .own entry).2,
        some (.gone spawned, d)⟩
  | restoring (done) {left} (h : (Guard.engage .own entry).1.saved.reverse = done ++ left) (spawned) :
      Situation entry (some spawned) ⟨.restoring left spawned,
        (Guard.engage .own entry).2.restored done, none⟩
  | returned (spawned) :
      Situation entry (some spawned) ⟨.returned (Interpreter.outcome spawned), entry, none⟩
  | ended (known) {s d} (h : entry s = .default) :
      Situation entry known ⟨.ended s, d, none⟩

variable {entry : Dispositions} {known : Option Spawned} {x y : State}

theorem situation_start (entry : Dispositions) : Situation entry none (start entry) :=
  .ignoring [] rfl

/-- a situation in which all that is certain of the child is so -/
def Possible (entry : Dispositions) (known : Option Spawned) (x : State) : Prop :=
  ∃ more, (∀ spawned ∈ known, spawned ∈ more) ∧ Situation entry more x

theorem Situation.possible (h : Situation entry known x) : Possible entry known x :=
  ⟨known, fun _ hs => hs, h⟩

theorem Situation.possible_none (h : Situation entry known x) : Possible entry none x :=
  ⟨known, nofun, h⟩

theorem run_cons (x : State) (e : Event) (events : List Event) :
    run x (e :: events) = (step x e).bind fun y => run y events :=
  List.foldlM_cons ..

theorem run_append (x : State) (a b : List Event) :
    run x (a ++ b) = (run x a).bind fun y => run y b := List.foldlM_append

/-- an interrupt that the launcher ignores comes to the child alone -/
theorem deliver_of_ignored {i : Interrupt} (h : x.dispositions i = .ignored) :
    deliver i x = { x with child := x.child.map (Child.hit i) } := by
  have hkept : ¬ x.dispositions.effect i = .ended := by
    rw [Dispositions.effect_interrupt_eq_ended_iff _ i.2, h]
    nofun
  simp only [deliver, hkept, and_false, if_false]

/-- without a child, an interrupt changes nothing or ends the launcher -/
theorem deliver_alone (i : Interrupt) (stage : Stage) (d : Dispositions) :
    deliver i ⟨stage, d, none⟩ = ⟨stage, d, none⟩ ∨
      d i = .default ∧ deliver i ⟨stage, d, none⟩ = ⟨.ended i, d, none⟩ := by
  by_cases h : stage.isRunning ∧ d.effect i = .ended
  · exact .inr ⟨(d.effect_interrupt_eq_ended_iff i.2).1 h.2, by simp only [deliver, h]; rfl⟩
  · exact .inl (by simp only [deliver, h]; rfl)

theorem Situation.deliver_alone {stage d} (h : Situation entry known ⟨stage, d, none⟩)
    (i : Interrupt) (hd : d i = .default → entry i = .default) :
    Situation entry known (deliver i ⟨stage, d, none⟩) := by
  obtain hsame | ⟨hdefault, hended⟩ := Interleaving.deliver_alone i stage d
  · rwa [hsame]
  · rw [hended]
    exact .ended known (hd hdefault)

/-- a child that is there goes on as it was, or is gone by the signal -/
theorem hit_cases (s : Signal) (c : Child) (d : Dispositions) :
    Child.hit s (c, d) = (c, d) ∨
      (∀ spawned, c ≠ .gone spawned) ∧ Child.hit s (c, d) = (.gone (.ended none), d) := by
  cases c with
  | gone spawned => exact .inl rfl
  | restoring left => by_cases h : d.effect s = .ended <;> simp [Child.hit, h]
  | interpreter => by_cases h : d.effect s = .ended <;> simp [Child.hit, h]

/-- the interpreter is ended by an interrupt unless it was ignored from the beginning -/
theorem hit_interpreter (entry : Dispositions) (i : Interrupt) :
    Child.hit i (.interpreter, entry.afterExec) =
      if entry i = .ignored then (.interpreter, entry.afterExec)
      else (.gone (.ended none), entry.afterExec) := by
  have hends : entry.afterExec.effect i = .ended ↔ ¬ entry i = .ignored :=
    (Dispositions.effect_interrupt_eq_ended_iff _ i.2).trans (entry.afterExec_eq_default_iff i)
  simp only [Child.hit, hends, ite_not]

theorem Situation.deliver_waiting {c d}
    (h : Situation entry known
      ⟨.waiting (Guard.engage .own entry).1, (Guard.engage .own entry).2, some (c, d)⟩) (i : Interrupt) :
    Possible entry known
      (deliver i ⟨.waiting (Guard.engage .own entry).1, (Guard.engage .own entry).2, some (c, d)⟩) := by
  rw [deliver_of_ignored (Guard.engage_ignored entry i.2), Option.map_some]
  obtain hsame | ⟨hthere, hgone⟩ := hit_cases i c d
  · rw [hsame]
    exact h.possible
  · rw [hgone]
    have hknown : known = none := by
      cases h with
      | gone spawned => exact absurd rfl (hthere spawned)
      | starting | running => rfl
    subst hknown
    exact (Situation.gone _ _).possible_none

/-- interrupts lead from one situation to another -/
theorem Situation.deliver (h : Situation entry known x) (i : Interrupt) :
    Possible entry known (deliver i x) := by
  cases h with
  | ignoring done hall =>
    have hdefault := Guard.default_of_ignoring (d := entry) hall (s := i)
    exact ((ignoring done hall).deliver_alone i hdefault).possible
  | restoring done hall spawned =>
    have hdone : ∀ p ∈ done, p ∈ (Guard.engage .own entry).1.saved := fun p hp =>
      List.mem_reverse.1 (hall ▸ List.mem_append_left _ hp)
    have hdefault := Guard.default_of_restoring hdone (s := i)
    exact ((restoring done hall spawned).deliver_alone i hdefault).possible
  | starting done hall => exact (starting done hall).deliver_waiting i
  | running => exact running.deliver_waiting i
  | gone spawned d => exact (gone spawned d).deliver_waiting i
  | returned spawned => exact (returned spawned).possible
  | ended known hd => exact (ended known hd).possible

/-- the launcher's own steps lead from one situation to another -/
theorem Situation.advance (h : Situation entry known x) (hy : advance x = some y) :
    Possible entry known y := by
  cases h with
  | @ignoring done left hall =>
    cases left with
    | nil =>
      obtain rfl : Guard.interrupts = done := hall.trans (List.append_nil done)
      obtain rfl := Option.some.inj hy
      exact (starting [] rfl).possible
    | cons s left =>
      obtain rfl := Option.some.inj hy
      have hnext : Situation entry none _ :=
        ignoring (done ++ [s]) (hall.trans (List.append_cons done s left))
      rw [List.foldl_append] at hnext
      exact hnext.possible
  | starting | running | returned | ended => cases hy
  | gone spawned d =>
    obtain rfl := Option.some.inj hy
    exact (restoring [] rfl spawned).possible
  | @restoring done left hall spawned =>
    cases left with
    | nil =>
      obtain rfl := Option.some.inj hy
      have hdone : (Guard.engage .own entry).2.restored done = entry := by
        rw [← List.append_nil done, ← hall, Guard.restored_saved_reverse]
      rw [hdone]
      exact (returned spawned).possible
    | cons p left =>
      obtain rfl := Option.some.inj hy
      have hnext : Situation entry (some spawned) _ :=
        restoring (done ++ [p]) (hall.trans (List.append_cons done p left)) spawned
      rw [Dispositions.restored, List.foldl_append] at hnext
      exact hnext.possible

/-- so do those of the child -/
theorem Situation.advance_child (h : Situation entry known x) (hy : step x .child = some y) :
    Possible entry known y := by
  cases h with
  | @starting done left hall =>
    cases left with
    | nil =>
      obtain rfl := Option.some.inj hy
      have hdone : (Guard.engage .own entry).2.restored done = entry := by
        rw [← List.append_nil done, ← hall, Guard.restored_saved]
      rw [hdone]
      exact running.possible
    | cons p left =>
      obtain rfl := Option.some.inj hy
      have hnext : Situation entry none _ :=
        starting (done ++ [p]) (hall.trans (List.append_cons done p left))
      rw [Dispositions.restored, List.foldl_append] at hnext
      exact hnext.possible
  | ignoring | running | gone | restoring | returned | ended => cases hy

theorem Situation.refuse {cause : IoError} (h : Situation entry known x)
    (hy : refuse cause x = some y) :
    Possible entry known y := by
  cases h with
  | @ignoring done left hall =>
    cases left with
    | nil =>
      obtain rfl : Guard.interrupts = done := hall.trans (List.append_nil done)
      obtain rfl := Option.some.inj hy
      exact (restoring [] rfl _).possible_none
    | cons s left => cases hy
  | @starting done left hall =>
    cases left with
    | nil =>
      obtain rfl := Option.some.inj hy
      exact (gone _ _).possible_none
    | cons p left => cases hy
  | running | gone | restoring | returned | ended => cases hy

theorem Situation.finish {code : Option Int} (h : Situation entry known x)
    (hy : finish code x = some y) :
    Possible entry known y := by
  cases h with
  | running =>
    obtain rfl := Option.some.inj hy
    exact (gone _ _).possible_none
  | ignoring | starting | gone | restoring | returned | ended => cases hy

/-- every event leads from one situation to another, and nothing that is certain is undone -/
theorem Situation.step (h : Situation entry known x) (e : Event) (hy : step x e = some y) :
    Possible entry known y := by
  cases e with
  | launcher => exact h.advance hy
  | child => exact h.advance_child hy
  | refuse cause => exact h.refuse hy
  | finish code => exact h.finish hy
  | deliver i =>
    obtain rfl := Option.some.inj hy
    exact h.deliver i

theorem Situation.run {events : List Event} (h : Situation entry known x)
    (hy : run x events = some y) :
    Possible entry known y := by
  induction events generalizing x known with
  | nil =>
    obtain rfl := Option.some.inj hy
    exact h.possible
  | cons e events ih =>
    rw [run_cons, Option.bind_eq_some_iff] at hy
    obtain ⟨next, hnext, hy⟩ := hy
    obtain ⟨more, hmore, h⟩ := h.step e hnext
    obtain ⟨last, hlast, h⟩ := ih h hy
    exact ⟨last, fun spawned hs => hlast spawned (hmore spawned hs), h⟩

/-- The launcher can come to no other answer, and however many interrupts come before it hears of
its child's end, that is the answer it comes to. -/
structure Answers (x : State) (answer : Except LaunchError Outcome) : Prop where
  only : ∀ {events y other}, run x events = some y → y.stage = .returned other → other = answer
  returns : ∀ signals : List Interrupt, ∃ y,
    run x (signals.map Event.deliver ++ List.replicate 4 .launcher) = some y ∧
      y.stage = .returned answer

theorem run_restoring (left : List (Signal × Disposition)) (spawned : Spawned) (d : Dispositions) :
    run ⟨.restoring left spawned, d, none⟩ (List.replicate (left.length + 1) .launcher) =
      some ⟨.returned (Interpreter.outcome spawned), d.restored left, none⟩ := by
  induction left generalizing d with
  | nil => rfl
  | cons p left ih => exact ih (d.set p.1 p.2)

theorem run_gone (guard : Guard) (spawned : Spawned) (d child : Dispositions) :
    run ⟨.waiting guard, d, some (.gone spawned, child)⟩
        (List.replicate (guard.saved.length + 2) .launcher) =
      some ⟨.returned (Interpreter.outcome spawned), guard.restore .own d, none⟩ := by
  rw [← List.length_reverse]
  exact run_restoring guard.saved.reverse spawned d

/-- interrupts find nothing to end once the child is gone -/
theorem run_deliver_gone (entry : Dispositions) (spawned : Spawned) (d : Dispositions)
    (signals : List Interrupt) :
    let x : State := ⟨.waiting (Guard.engage .own entry).1, (Guard.engage .own entry).2,
      some (.gone spawned, d)⟩
    run x (signals.map Event.deliver) = some x := by
  intro x
  induction signals with
  | nil => rfl
  | cons i signals ih =>
    have hsame : deliver i x = x := deliver_of_ignored (Guard.engage_ignored entry i.2)
    rw [List.map_cons, run_cons, step, Option.bind_some, hsame, ih]

/-- once it is certain what came of the child, that is the answer -/
theorem answers_gone (entry : Dispositions) (spawned : Spawned) (d : Dispositions) :
    Answers ⟨.waiting (Guard.engage .own entry).1, (Guard.engage .own entry).2,
      some (.gone spawned, d)⟩ (Interpreter.outcome spawned) where
  only := by
    intro events y other hy hreturned
    have hgone : Situation entry _ _ := .gone spawned d
    obtain ⟨more, hmore, hlast⟩ := hgone.run hy
    obtain rfl : more = some spawned := hmore spawned rfl
    cases hlast with
    | returned => exact (Stage.returned.inj hreturned).symm
    | gone | restoring | ended => cases hreturned
  returns signals := by
    have hfour : (Guard.engage .own entry).1.saved.length + 2 = 4 := by
      rw [Guard.saved_engage]
      rfl
    rw [run_append, run_deliver_gone, Option.bind_some, ← hfour, run_gone]
    exact ⟨_, rfl, rfl⟩

/-- a launcher that has a child ignores the interrupts -/
theorem Situation.ignored (h : Situation entry known x) (hchild : x.child.isSome) (i : Interrupt) :
    x.dispositions i = .ignored := by
  cases h with
  | starting | running | gone => exact Guard.engage_ignored entry i.2
  | ignoring | restoring | returned | ended => cases hchild

theorem Situation.answers {spawned : Spawned} {d : Dispositions} (h : Situation entry known x)
    (hchild : x.child = some (.gone spawned, d)) : Answers x (Interpreter.outcome spawned) := by
  cases h with
  | gone =>
    cases hchild
    exact answers_gone entry spawned d
  | ignoring | starting | running | restoring | returned | ended => cases hchild

/-- Interrupts come at any time. While there is a child, both are ignored and none of them does
anything to the launcher. Once the child is gone, the launcher answers with its exit code, or with
an error that names the interpreter if there could be no child. The interpreter may be done with
any exit code; an interrupt that comes to it ends it, exactly if it was not ignored from the
beginning, and the answer then has no exit code. The launcher itself is ended only without a child,
by a signal that always did so; else it answers as the line run as a whole does, and what it does
about signals is again what it did at first. -/
theorem interrupts_reach_child_alone {entry : Dispositions} {events : List Event} {x : State}
    (h : run (start entry) events = some x) :
    (x.child.isSome → x.dispositions .int = .ignored ∧ x.dispositions .quit = .ignored ∧
      ∀ i : Interrupt, ∃ y, step x (.deliver i) = some y ∧ y.stage = x.stage ∧
        y.dispositions = x.dispositions) ∧
    (∀ code d, x.child = some (.gone (.ended code), d) → Answers x (.ok ⟨code⟩)) ∧
    (∀ cause d, x.child = some (.gone (.refused cause), d) →
      Answers x (.error (.shellSpawn "/bin/sh" cause.text))) ∧
    (∀ d, x.child = some (.interpreter, d) →
      (∀ code, ∃ y, step x (.finish code) = some y ∧ Answers y (.ok ⟨code⟩)) ∧
      ∀ i : Interrupt, ∃ y, step x (.deliver i) = some y ∧
        if entry i = .ignored then y = x
        else y.child = some (.gone (.ended none), d) ∧ Answers y (.ok ⟨none⟩)) ∧
    (∀ s, x.stage = .ended s → entry s = .default ∧ x.child = none) ∧
    ∀ answer, x.stage = .returned answer → x.dispositions = entry ∧
      ((∃ code, answer = .ok ⟨code⟩) ∨ ∃ cause, answer = .error (.shellSpawn "/bin/sh" cause)) ∧
      ∃ spawned, ∀ {σ : Type} (spawner : Spawner σ) line s,
        (spawner.start line (Guard.engage .own entry).2 entry s).1 = spawned →
          (Interpreter.execute .own spawner line (entry, s)).1 = answer ∧
          (Interpreter.execute .own spawner line (entry, s)).2.1 = x.dispositions := by
  obtain ⟨known, -, hx⟩ := (situation_start entry).run h
  refine ⟨?_, ?_, ?_, ?_, ?_, ?_⟩
  · intro hchild
    refine ⟨hx.ignored hchild ⟨.int, .inl rfl⟩, hx.ignored hchild ⟨.quit, .inr rfl⟩, fun i => ?_⟩
    exact ⟨_, rfl, by rw [deliver_of_ignored (hx.ignored hchild i)], rfl⟩
  · exact fun code d hchild => hx.answers hchild
  · exact fun cause d hchild => hx.answers hchild
  · intro d hchild
    cases hx with
    | running =>
      cases hchild
      refine ⟨fun code => ⟨_, rfl, answers_gone entry (.ended code) entry.afterExec⟩,
        fun i => ⟨_, rfl, ?_⟩⟩
      rw [deliver_of_ignored (Guard.engage_ignored entry i.2), Option.map_some, hit_interpreter]
      split
      · rfl
      · exact ⟨rfl, answers_gone entry (.ended none) entry.afterExec⟩
    | starting | gone => cases hchild
    | ignoring | restoring | returned | ended => cases hchild
  · intro s hs
    cases hx with
    | ended known hd => cases hs; exact ⟨hd, rfl⟩
    | ignoring | starting | running | gone | restoring | returned => cases hs
  · intro answer hanswer
    cases hx with
    | returned spawned =>
      cases hanswer
      refine ⟨rfl, ?_, spawned, fun spawner line s hspawned => ?_⟩
      · cases spawned with
        | ended code => exact .inl ⟨code, rfl⟩
        | refused cause => exact .inr ⟨cause.text, rfl⟩
      · rw [Interpreter.execute_eq, hspawned]
        exact ⟨rfl, rfl⟩
    | ignoring | starting | running | gone | restoring | ended => cases hanswer

/-- One interrupt is ignored from the beginning and the other is not. Each is sent at several moments;
the interpreter may also come to an end of its own. -/
theorem interrupts_reach_child_alone_of_quit_ignored :
    let entry := Dispositions.initial.set .quit .ignored
    let int : Interrupt := ⟨.int, .inl rfl⟩
    let quit : Interrupt := ⟨.quit, .inr rfl⟩
    let events : List Event := [.deliver quit, .launcher, .deliver int, .launcher, .launcher,
      .deliver int, .child, .child, .child, .deliver quit]
    ∃ x y d, run (start entry) events = some x ∧
      x.child = some (.interpreter, d) ∧ step x (.deliver quit) = some x ∧
      step x (.deliver int) = some y ∧ y.child = some (.gone (.ended none), d) ∧
      Answers y (.ok ⟨none⟩) ∧
      ∃ z, step x (.finish (some 7)) = some z ∧ Answers z (.ok ⟨some 7⟩) := by
  intro entry int quit events
  obtain ⟨x, hx, d, hchild⟩ : ∃ x, run (start entry) events = some x ∧
      ∃ d, x.child = some (.interpreter, d) := ⟨_, rfl, _, rfl⟩
  obtain ⟨-, -, -, hinterpreter, -, -⟩ := interrupts_reach_child_alone hx
  obtain ⟨hfinish, hdeliver⟩ := hinterpreter d hchild
  obtain ⟨x', hquit, hsame⟩ := hdeliver quit
  obtain ⟨y, hint, hgone⟩ := hdeliver int
  rw [if_pos (by decide)] at hsame
  rw [if_neg (by decide)] at hgone
  exact ⟨x, y, d, hx, hchild, hsame ▸ hquit, hint, hgone.1, hgone.2, hfinish (some 7)⟩

end Interleaving
end JarLauncher
