import JarLauncher.Proofs.Independence

/-! What a launch logs of the failures it goes on after. Each of them is logged once, in the order
they come in, and nothing is logged without a cause. A console may fail many times over, but only
the failure that ends the announcement is told, and interruptions leave no trace. -/

namespace JarLauncher

namespace Attempt

/-- what a write failed with; an interrupted one is made again and has not failed -/
def writeFailure? : Attempt → Option IoError
  | write _ (.accepted 0) => some (.custom .writeZero "failed to write whole buffer")
  | write _ (.failed e) => if e.isInterrupted then none else some e
  | _ => none

def flushFailure? : Attempt → Option IoError
  | flush answer => answer
  | _ => none

/-- what the calls failed with: the first of the writes that failed or, if none did, the flush -/
def failure? (calls : List Attempt) : Option IoError :=
  (calls.findSome? writeFailure?).or (calls.findSome? flushFailure?)

theorem findSome?_flushFailure?_of_isWrite {calls : List Attempt} (h : ∀ c ∈ calls, c.isWrite) :
    calls.findSome? flushFailure? = none := by
  refine List.findSome?_eq_none_iff.2 fun c hc => ?_
  have hw := h c hc
  cases c <;> simp_all [isWrite, flushFailure?]

end Attempt

open Attempt

variable {σ : Type} {text : Bytes} {written failure : Option IoError} {calls : List Attempt}

/-- the loop fails with what its first failing write failed with -/
theorem Writes.findSome?_writeFailure? (h : Writes text failure calls) :
    calls.findSome? writeFailure? = failure := by
  induction h with
  | done => rfl
  | part n h more ih => exact ih
  | again e h he more ih =>
    rw [List.findSome?_cons, writeFailure?, if_pos he]
    exact ih
  | refused h => rfl
  | failed e h he =>
    rw [List.findSome?_cons, writeFailure?, if_neg (by simp [he])]

/-- a write that takes nothing ends the loop, with a failure that says so -/
theorem Writes.eq_refusal_of_mem (h : Writes text failure calls) {offer : Bytes}
    (hw : .write offer (.accepted 0) ∈ calls) : failure = some Console.refusal := by
  induction h with
  | done => cases hw
  | part n h more ih => exact ih (by simpa using hw)
  | again e h he more ih => exact ih (by simpa using hw)
  | refused h => rfl
  | failed e h he => simp at hw

theorem Command.needsQuoting_nil (profile : Profile) :
    (ofDir [] profile).needsQuoting = false := by
  simp [needsQuoting, Utf8.lossy]

namespace Launch

theorem Announced.failure?_eq (h : Announced text written failure calls) :
    failure? calls = failure := by
  cases h with
  | @whole writes _ h =>
    rw [failure?, List.findSome?_append, List.findSome?_append, h.findSome?_writeFailure?,
      findSome?_flushFailure?_of_isWrite h.isWrite]
    cases failure <;> rfl
  | cut e h => rw [failure?, h.findSome?_writeFailure?, Option.some_or]

theorem Announced.eq_refusal_of_mem (h : Announced text written failure calls) {offer : Bytes}
    (hw : .write offer (.accepted 0) ∈ calls) : failure = some Console.refusal := by
  cases h with
  | whole answer h => cases h.eq_refusal_of_mem (by simpa using hw)
  | cut e h => exact h.eq_refusal_of_mem hw

/-- the shell's call adds no failure to those of the announcement -/
theorem failure?_append_execute (calls : List Attempt) (line : Bytes) :
    failure? (calls ++ [.execute line]) = failure? calls := by
  simp [failure?, writeFailure?, flushFailure?]

theorem announce_eq_failure? (around : Surroundings σ) (profile : Profile) (s : σ) :
    (announce around.console (command around profile s) s).1 =
      failure? (attempts around profile s) := by
  obtain ⟨shown, h, hcalls⟩ := attempts_eq around profile s
  rw [hcalls, failure?_append_execute, h.failure?_eq]

theorem failure?_of_mem {around : Surroundings σ} {profile : Profile} {s : σ} {offer : Bytes}
    (hw : .write offer (.accepted 0) ∈ attempts around profile s) :
    failure? (attempts around profile s) = some Console.refusal := by
  obtain ⟨shown, h, hcalls⟩ := attempts_eq around profile s
  rw [hcalls] at hw ⊢
  rw [failure?_append_execute, h.failure?_eq]
  exact h.eq_refusal_of_mem (by simpa using hw)

/-- the directory that stands in for one that was not found is never warned about -/
theorem quotingEvents_of_missing {found : Except LaunchError Bytes} {e : LaunchError}
    (h : found = .error e) (profile : Profile) :
    quotingEvents (Command.ofDir (resolve found).1 profile) = [] := by
  rw [h, resolve, quotingEvents, Command.needsQuoting_nil]
  rfl

/-- The log of a launch, part by part: a directory that was not found; a directory that a shell may
split or expand; what the announcement failed with, once; what the shell logs itself; and how it
ended. Each part is there exactly if there is something to tell. The first two are never there
together, and an error that is returned is not logged here. -/
theorem log_accounts (around : Surroundings σ) (profile : Profile) (s : σ) :
    let found := around.currentDir s
    let c := command around profile s
    let failure := failure? (attempts around profile s)
    let shell := (around.shell.execute c.line (announce around.console c s).2).1
    let launch := execute around profile s
    ∃ missing quoting console exit : List Log.Event,
      launch.log = missing ++ quoting ++ console ++ shell.2 ++ exit ∧
      (∀ e, found = .error e → missing = [.directoryMissing e.message]) ∧
      (∀ dir, found = .ok dir → missing = []) ∧
      (c.needsQuoting = true → quoting = [.directoryUnquoted c.dir]) ∧
      (c.needsQuoting = false → quoting = []) ∧
      (announce around.console c s).1 = failure ∧
      (∀ e, failure = some e →
        console = [.consoleFailed ("Failed to write to console: " ++ e.text)]) ∧
      (∀ offer, .write offer (.accepted 0) ∈ attempts around profile s →
        console = [.consoleFailed "Failed to write to console: failed to write whole buffer"]) ∧
      (failure = none → console = []) ∧
      (∀ outcome, shell.1 = .ok outcome →
        exit = [.exited around.shell.name outcome.exitCode]) ∧
      (∀ e, shell.1 = .error e → exit = []) ∧
      (missing = [] ∨ quoting = []) ∧
      ∀ e, launch.result = .error e → shell.1 = .error e ∧ exit = [] := by
  intro found c failure shell launch
  have hfailure : (announce around.console c s).1 = failure := announce_eq_failure? around profile s
  refine ⟨(resolve found).2, quotingEvents c, consoleEvents failure,
    exitEvents around.shell.name shell.1, ?_, ?_, ?_, ?_, ?_, hfailure, ?_, ?_, ?_, ?_, ?_, ?_,
    ?_⟩
  · rw [← hfailure]
    rfl
  · intro e h
    rw [h, resolve]
  · intro dir h
    rw [h, resolve]
  · intro h
    rw [quotingEvents, if_pos h]
  · intro h
    rw [quotingEvents, h]
    rfl
  · intro e h
    rw [h]
    rfl
  · intro offer hw
    rw [show failure = some Console.refusal from failure?_of_mem hw]
    rfl
  · intro h
    rw [h]
    rfl
  · intro outcome h
    rw [h, exitEvents]
  · intro e h
    rw [h, exitEvents]
  · cases hfound : found with
    | ok dir => exact .inl rfl
    | error e => exact .inr (quotingEvents_of_missing hfound profile)
  · intro e h
    have hshell : shell.1 = .error e := map_eq_error_iff.1 h
    exact ⟨hshell, by rw [hshell, exitEvents]⟩

end Launch
end JarLauncher
