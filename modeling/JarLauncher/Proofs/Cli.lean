import JarLauncher.Cli
import JarLauncher.Proofs.Journal.Announced

/-! What arguments and settings make of a launch. A run is its launch and nothing else, whatever
fails in it, unless the reading of its setting breaks off; then there is no launch. -/

namespace JarLauncher.Cli

open Attempt

variable {σ : Type}

theorem Reading.shows?_eq_none_iff (r : Reading) : r.shows? = none ↔ r = .broken := by
  cases r <;> simp [shows?]

namespace Setup

variable {setup : Setup} {setting : Option Bytes}

theorem run_of_broken (h : setup.readFilter setting = .broken) (around : Surroundings σ)
    (args : List Bytes) (s : σ) : setup.run around args setting s = ⟨[], abandoned, s⟩ := by
  rw [run, h, Reading.shows?]

/-- all but what is shown of the log -/
theorem run_of_ne_broken (h : setup.readFilter setting ≠ .broken) (around : Surroundings σ)
    (args : List Bytes) (s : σ) :
    (setup.run around args setting s).exitCode = 0 ∧
      (setup.run around args setting s).state = (Launch.execute around .bundled s).state := by
  obtain ⟨shows, hshows⟩ :=
    Option.ne_none_iff_exists'.1 (mt (Reading.shows?_eq_none_iff _).1 h)
  rw [run, hshows]
  exact ⟨rfl, rfl⟩

theorem exitCode_run_eq_zero_iff (around : Surroundings σ) (args : List Bytes) (s : σ) :
    (setup.run around args setting s).exitCode = 0 ↔ setup.readFilter setting ≠ .broken := by
  constructor
  · intro hexit h
    rw [run_of_broken h] at hexit
    cases hexit
  · exact fun h => (run_of_ne_broken h around args s).1

/-- arguments are told by an event of their own; if that is not shown, a run is the same with any -/
theorem run_args (h : ∀ shows, setup.readFilter setting = .filter shows →
      ∀ count, shows (.argumentsIgnored count) = false)
    (around : Surroundings σ) (args args' : List Bytes) (s : σ) :
    setup.run around args setting s = setup.run around args' setting s := by
  cases hreading : setup.readFilter setting with
  | filter shows =>
    have hnone (counted : List Bytes) : (argumentEvents counted).filter shows = [] := by
      unfold argumentEvents
      split <;> simp [h shows hreading]
    simp only [run, hreading, Reading.shows?, List.filter_append, hnone]
  | invalid => simp [run, hreading, Reading.shows?]
  | broken => simp [run, hreading, Reading.shows?]

/-- Two runs in the same surroundings, whatever the arguments and the settings are, however they are
read, and whether or not the log can be shown: both end normally, leave the same state, write the
same octets, and give the shell the one line of the launch, exactly if neither reading of a setting
breaks off. If it does, nothing is written and nothing is run. -/
theorem same_launch_iff (setup₁ setup₂ : Setup) (around : Surroundings σ)
    (args₁ args₂ : List Bytes) (setting₁ setting₂ : Option Bytes) (s : σ) :
    let c := Launch.command around .bundled s
    let run₁ := setup₁.run around.recorded args₁ setting₁ (s, [])
    let run₂ := setup₂.run around.recorded args₂ setting₂ (s, [])
    (run₁.exitCode = 0 ∧ run₂.exitCode = 0 ∧ run₁.state.1 = run₂.state.1 ∧
        accepted run₁.state.2 = accepted run₂.state.2 ∧
        lines run₁.state.2 = [c.line] ∧ lines run₂.state.2 = [c.line] ↔
      setup₁.readFilter setting₁ ≠ .broken ∧ setup₂.readFilter setting₂ ≠ .broken) ∧
    (setup₁.readFilter setting₁ = .broken →
      run₁.exitCode = 101 ∧ accepted run₁.state.2 = [] ∧ lines run₁.state.2 = [] ∧
        run₁.state.1 = s) := by
  intro c run₁ run₂
  refine ⟨⟨?_, ?_⟩, ?_⟩
  · rintro ⟨hexit₁, hexit₂, -⟩
    exact ⟨(exitCode_run_eq_zero_iff ..).1 hexit₁, (exitCode_run_eq_zero_iff ..).1 hexit₂⟩
  · rintro ⟨h₁, h₂⟩
    obtain ⟨hexit₁, hstate₁⟩ := run_of_ne_broken h₁ around.recorded args₁ (s, [])
    obtain ⟨hexit₂, hstate₂⟩ := run_of_ne_broken h₂ around.recorded args₂ (s, [])
    have hsame : run₁.state = run₂.state := hstate₁.trans hstate₂.symm
    have hlines : lines run₁.state.2 = [c.line] := by
      rw [show run₁.state = _ from hstate₁]
      exact Launch.lines_attempts around .bundled s
    exact ⟨hexit₁, hexit₂, congrArg Prod.fst hsame, congrArg (accepted ·.2) hsame, hlines,
      hsame ▸ hlines⟩
  · intro h
    have hrun : run₁ = ⟨[], abandoned, (s, [])⟩ := run_of_broken h around.recorded args₁ _
    rw [hrun]
    exact ⟨rfl, rfl, rfl, rfl⟩

end Setup

/-- A reading that breaks off at one setting, a blank before a directive with a wide character: the
run breaks off before the launch. Without the setting it launches, whatever the shell answers. -/
theorem abandoned_of_broken_reading :
    let setting := Utf8.encode " é=debug"
    let setup : Setup :=
      ⟨some, fun given => if given = some setting then .broken else .invalid, true⟩
    let found : Except LaunchError Bytes := .ok [47, 97]
    let console : Console Bytes := Console.accepting fun bs written => written ++ bs
    let around := Surroundings.beside found console (Journal.recordingShell (some 3) false)
    let args := [Utf8.encode "one"]
    let set := setup.run around.recorded args (some setting) (([], Journal.empty), [])
    let unset := setup.run around.recorded args none (([], Journal.empty), [])
    let c := Command.ofDir [47, 97] .bundled
    set.exitCode = 101 ∧ accepted set.state.2 = [] ∧ lines set.state.2 = [] ∧
      unset.exitCode = 0 ∧ accepted unset.state.2 = Utf8.encode (Launch.announcement c) ∧
      lines unset.state.2 = [c.line] := by
  intro setting setup found console around args set unset c
  have hbroken : setup.readFilter (some setting) = .broken := by simp [setup]
  have hinvalid : setup.readFilter none ≠ .broken := nofun
  have hset : set = ⟨[], abandoned, (([], Journal.empty), [])⟩ :=
    Setup.run_of_broken hbroken around.recorded args _
  obtain ⟨hexit, hstate⟩ :=
    Setup.run_of_ne_broken hinvalid around.recorded args (([], Journal.empty), [])
  have hcalls : unset.state.2 = Launch.attempts around .bundled ([], Journal.empty) :=
    congrArg Prod.snd hstate
  rw [hset, hcalls]
  refine ⟨rfl, rfl, rfl, hexit, ?_, Launch.lines_attempts around .bundled _⟩
  exact Launch.accepted_beside found (fun _ _ => rfl) _ .bundled [] Journal.empty

end JarLauncher.Cli
