import JarLauncher.Proofs.Lists
import JarLauncher.Proofs.WriteLoop

/-! What a launch shows on its console, whatever the console does. The octets that it takes are the
first of the announcement. All of them are taken, and flushed once, unless a write is fatal; after a
fatal write there is nothing but the shell, which gets its line in any case. -/

namespace JarLauncher.Launch

open Attempt

variable {σ : Type}

/-- the command that a launch runs -/
def command (around : Surroundings σ) (profile : Profile) (s : σ) : Command :=
  Command.ofDir (resolve (around.currentDir s)).1 profile

/-- the announcement as one text -/
def announcement (c : Command) : String := banner ++ "\n" ++ label ++ c.display ++ "\n"

theorem pieces_flatten (c : Command) : (pieces c).flatten = Utf8.encode (announcement c) := by
  simp [pieces, announcement]

/-- The calls of an announcement: its writes and, if none of them fails, one flush. `written` is
what came of the writes, `failure` what came of it all. -/
inductive Announced (text : Bytes) :
    (written failure : Option IoError) → (calls : List Attempt) → Prop
  | whole {writes} (answer : Option IoError) (h : Writes text none writes) :
      Announced text none answer (writes ++ [.flush answer])
  | cut {writes} (e : IoError) (h : Writes text (some e) writes) :
      Announced text (some e) (some e) writes

namespace Announced

variable {text : Bytes} {written failure : Option IoError} {calls : List Attempt}

theorem accepted_prefix (h : Announced text written failure calls) : accepted calls <+: text := by
  cases h with
  | whole answer h => simpa [taken] using h.accepted_prefix
  | cut e h => exact h.accepted_prefix

theorem offer_prefix (h : Announced text written failure calls) {before after : List Attempt}
    {offer : Bytes} {answer : Written} (hc : calls = before ++ .write offer answer :: after) :
    offer ≠ [] ∧ accepted before ++ offer <+: text := by
  cases h with
  | whole flushed h =>
    rcases Lists.cut_concat hc with ⟨more, -, hw⟩ | ⟨-, hw, -⟩
    · exact h.offer_prefix hw
    · cases hw
  | cut e h => exact h.offer_prefix hc

theorem accepted_eq (h : Announced text none failure calls) : accepted calls = text := by
  cases h with
  | whole answer h => simpa [taken] using h.accepted_eq

/-- all is taken and then flushed once exactly if no write is fatal -/
theorem whole_iff (h : Announced text written failure calls) :
    (accepted calls = text ∧
        ∃ writes answer, calls = writes ++ [.flush answer] ∧ ∀ w ∈ writes, w.isWrite) ↔
      ∀ w ∈ calls, w.isFatal = false := by
  cases h with
  | @whole writes _ h =>
    have hfatal := h.eq_none_iff.1 rfl
    refine iff_of_true ⟨?_, writes, failure, rfl, h.isWrite⟩ ?_
    · simpa [taken] using h.accepted_eq
    · intro w hw
      rcases List.mem_append.1 hw with hw | hw
      · exact hfatal w hw
      · rw [List.mem_singleton.1 hw]; rfl
  | cut e h =>
    refine iff_of_false ?_ fun hfatal => absurd (h.eq_none_iff.2 hfatal) (by simp)
    rintro ⟨-, writes, answer, rfl, -⟩
    simpa [isWrite] using h.isWrite (.flush answer) (by simp)

theorem eq_nil_of_isFatal (h : Announced text written failure calls) {before after : List Attempt}
    {c : Attempt} (hc : calls = before ++ c :: after) (hf : c.isFatal) : after = [] := by
  cases h with
  | @whole writes answer h =>
    rcases Lists.cut_concat hc with ⟨more, -, hw⟩ | ⟨ha, -, -⟩
    · simp [h.eq_none_iff.1 rfl c (by simp [hw])] at hf
    · exact ha
  | cut e h => exact h.eq_nil_of_isFatal hc hf

theorem lines_eq_nil (h : Announced text written failure calls) : lines calls = [] := by
  cases h with
  | whole answer h => rw [lines_append, Attempt.lines_eq_nil h.isWrite]; rfl
  | cut e h => exact Attempt.lines_eq_nil h.isWrite

end Announced

theorem announce_recorded (console : Console σ) (c : Command) (s : σ) (before : List Attempt) :
    ∃ calls, announce console.recorded c (s, before) =
        ((announce console c s).1, (announce console c s).2, before ++ calls) ∧
      Announced (Utf8.encode (announcement c)) (console.writePieces (pieces c) s).1
        (announce console c s).1 calls := by
  obtain ⟨writes, hrun, hwrites⟩ := console.writePieces_recorded (pieces c) s before
  rw [pieces_flatten] at hwrites
  rcases hpieces : console.writePieces (pieces c) s with ⟨_ | e, s'⟩
  · rw [hpieces] at hrun hwrites
    refine ⟨writes ++ [.flush (console.flush s').1], ?_, ?_⟩
    · simp only [announce, hrun, hpieces, Console.recorded_flush, List.append_assoc]
    · simpa [announce, hpieces] using Announced.whole (console.flush s').1 hwrites
  · rw [hpieces] at hrun hwrites
    refine ⟨writes, ?_, ?_⟩
    · simp only [announce, hrun, hpieces]
    · simpa [announce, hpieces] using Announced.cut e hwrites

/-- Keeping the calls leaves the launch as it is. They are those of the announcement, and then the
shell's. -/
theorem execute_recorded (around : Surroundings σ) (profile : Profile) (s : σ) :
    ∃ calls, Announced (Utf8.encode (announcement (command around profile s)))
        (around.console.writePieces (pieces (command around profile s)) s).1
        (announce around.console (command around profile s) s).1 calls ∧
      execute around.recorded profile (s, []) =
        { result := (execute around profile s).result
          log := (execute around profile s).log
          state := ((execute around profile s).state,
            calls ++ [.execute (command around profile s).line]) } := by
  obtain ⟨calls, hrun, hcalls⟩ :=
    announce_recorded around.console (command around profile s) s []
  refine ⟨calls, hcalls, ?_⟩
  simp only [command] at hrun
  simp [execute, Surroundings.recorded, Runner.recorded, hrun, command]

theorem attempts_eq (around : Surroundings σ) (profile : Profile) (s : σ) :
    ∃ calls, Announced (Utf8.encode (announcement (command around profile s)))
        (around.console.writePieces (pieces (command around profile s)) s).1
        (announce around.console (command around profile s) s).1 calls ∧
      attempts around profile s = calls ++ [.execute (command around profile s).line] := by
  obtain ⟨calls, hcalls, hrun⟩ := execute_recorded around profile s
  exact ⟨calls, hcalls, by rw [attempts, hrun]⟩

theorem lines_attempts (around : Surroundings σ) (profile : Profile) (s : σ) :
    lines (attempts around profile s) = [(command around profile s).line] := by
  obtain ⟨shown, h, hcalls⟩ := attempts_eq around profile s
  rw [hcalls, lines_append, h.lines_eq_nil]
  rfl

theorem execute_result (around : Surroundings σ) (profile : Profile) (s : σ) :
    (execute around profile s).result =
      (around.shell.execute (command around profile s).line
        (announce around.console (command around profile s) s).2).1.1.map
        (Report.mk (command around profile s)) := rfl

/-- For every console, whatever it takes at a time and wherever it fails: each offer is what comes
next in the announcement; all of it is taken, and flushed once, exactly if no write is fatal; and
the shell is run once, last, with the whole command line, and its answer is the launch's. -/
theorem announced_then_executed (around : Surroundings σ) (profile : Profile) (s : σ) :
    let c := command around profile s
    let text := Utf8.encode (banner ++ "\n" ++ label ++ c.display ++ "\n")
    let calls := attempts around profile s
    accepted calls <+: text ∧
    (∀ before offer answer after, calls = before ++ .write offer answer :: after →
      offer ≠ [] ∧ accepted before ++ offer <+: text) ∧
    ((accepted calls = text ∧ ∃ writes answer,
        calls = writes ++ [.flush answer, .execute c.line] ∧ ∀ w ∈ writes, w.isWrite) ↔
      ∀ w ∈ calls, w.isFatal = false) ∧
    (∀ before w after, calls = before ++ w :: after → w.isFatal → after = [.execute c.line]) ∧
    (∃ before, calls = before ++ [.execute c.line] ∧ lines before = []) ∧
    (execute around profile s).result =
      (around.shell.execute c.line (announce around.console c s).2).1.1.map (Report.mk c) := by
  intro c text calls
  obtain ⟨shown, h, hcalls⟩ := attempts_eq around profile s
  change Announced text _ _ shown at h
  change calls = shown ++ [.execute c.line] at hcalls
  have hacc : accepted calls = accepted shown := by simp [hcalls, taken]
  refine ⟨?_, ?_, ?_, ?_, ⟨shown, hcalls, h.lines_eq_nil⟩, execute_result around profile s⟩
  · rw [hacc]
    exact h.accepted_prefix
  · intro before offer answer after hc
    rcases Lists.cut_concat (hcalls.symm.trans hc) with ⟨more, -, hs⟩ | ⟨-, hw, -⟩
    · exact h.offer_prefix hs
    · cases hw
  · rw [hacc]
    have hend (writes : List Attempt) (answer : Option IoError) :
        calls = writes ++ [.flush answer, .execute c.line] ↔ shown = writes ++ [.flush answer] := by
      rw [hcalls, ← List.append_cancel_right_eq shown [.execute c.line], List.append_assoc]
      rfl
    have hshell : ∀ w ∈ [Attempt.execute c.line], w.isFatal = false := by simp [isFatal]
    simp only [hend]
    rw [h.whole_iff, hcalls, List.forall_mem_append, and_iff_left hshell]
  · intro before w after hc hf
    rcases Lists.cut_concat (hcalls.symm.trans hc) with ⟨more, ha, hs⟩ | ⟨-, hw, -⟩
    · rw [ha, h.eq_nil_of_isFatal hs hf]; rfl
    · rw [hw] at hf; cases hf

end JarLauncher.Launch
