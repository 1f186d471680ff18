import JarLauncher.Proofs.Journal.Announced

/-! The calls of a launch that is recorded. It shows itself piece by piece and flushes, unless nobody
reads its console, and then its shell records the line. What comes of the launch is what comes of
these calls, on a journal as on any other state that takes octets and on which lines can be
recorded. -/

namespace JarLauncher

variable {σ : Type}

namespace Console

variable (put : Bytes → σ → σ)

theorem writeAll_accepting {bs : Bytes} (h : bs ≠ []) (s : σ) :
    (accepting put).writeAll bs s = (none, put bs s) := by
  obtain ⟨b, rest, rfl⟩ := List.exists_cons_of_ne_nil h
  have hw : (accepting put).write (b :: rest) s =
      (.accepted (rest.length + 1), put (b :: rest) s) := rfl
  rw [writeAll_accepted _ h hw]
  simp

theorem writePieces_accepting {pieces : List Bytes} (h : ∀ piece ∈ pieces, piece ≠ []) (s : σ) :
    (accepting put).writePieces pieces s = (none, pieces.foldl (fun s piece => put piece s) s) := by
  induction pieces generalizing s with
  | nil => rfl
  | cons piece pieces ih =>
    obtain ⟨hpiece, hpieces⟩ := List.forall_mem_cons.1 h
    rw [writePieces, writeAll_accepting put hpiece]
    exact ih hpieces (put piece s)

end Console

namespace Launch

/-- there is something in each piece of an announcement -/
theorem pieces_ne_nil (dir : Bytes) (profile : Profile) :
    ∀ piece ∈ pieces (Command.ofDir dir profile), piece ≠ [] := by
  have hblank : (32 : UInt8) ∈ Utf8.encode profile.text := by
    have hone : Utf8.encode " " = [32] := by decide
    simp [Profile.text, hone]
  have hshown : Utf8.encode (Command.ofDir dir profile).display ≠ [] := by
    intro h
    have hcount := Utf8.count_encode_lossy (b := 32) rfl (Command.ofDir dir profile).line
    rw [show Utf8.encode (Utf8.lossy _) = [] from h, Command.ofDir_line, List.count_append] at hcount
    have hpos := List.count_pos_iff.2 hblank
    simp at hcount
    omega
  simp only [pieces, List.map_cons, List.map_nil, List.forall_mem_cons]
  exact ⟨by decide, by decide, by decide, hshown, by decide, by simp⟩

/-- the first piece that a closed console is offered ends the announcement -/
theorem announce_closedConsole (c : Command) (s : σ) :
    announce Journal.closedConsole c s = (some Journal.closedOutput, s) := by
  have hbanner : Utf8.encode banner ≠ [] := by decide
  have hfirst : Journal.closedConsole.writeAll (Utf8.encode banner) s =
      (some Journal.closedOutput, s) := Console.writeAll_failed _ hbanner rfl rfl
  rw [announce, pieces, List.map_cons, Console.writePieces, hfirst]

theorem state_execute (around : Surroundings σ) (profile : Profile) (s : σ) :
    (execute around profile s).state =
      (around.shell.execute (command around profile s).line
        (announce around.console (command around profile s) s).2).2 := rfl

end Launch

namespace Journal

open Launch

/-- a call on any state that takes octets and on which lines can be recorded -/
def Event.on (write record : Bytes → σ → σ) : Event → σ → σ
  | .write data => write data
  | .flush => id
  | .record line => record line

namespace Trial

def command (t : Trial) : Command := Command.ofDir (t.dir.getD []) t.profile

def result (t : Trial) : Except LaunchError Report :=
  if t.refuses then .error (.shellSpawn "recording-shell" "spawn refused")
  else .ok ⟨t.command, ⟨t.exitCode⟩⟩

/-- what a launch shows, as its console gets it -/
def shownCalls (t : Trial) : List Event :=
  if t.closed then [] else (pieces t.command).map .write ++ [.flush]

/-- all calls of a launch, in order -/
def calls (t : Trial) : List Event := t.shownCalls ++ [.record t.command.line]

variable (t : Trial) (write record : Bytes → σ → σ) (s : σ)

theorem command_surroundings :
    Launch.command (t.surroundings write record) t.profile s = t.command := by
  rw [Launch.command, command]
  congr 1
  cases hdir : t.dir <;> simp [surroundings, hdir, resolve]

theorem result_execute : (execute (t.surroundings write record) t.profile s).result = t.result := by
  have hshell (line : Bytes) (s : σ) :
      ((t.surroundings write record).shell.execute line s).1.1 =
        if t.refuses then .error (.shellSpawn "recording-shell" "spawn refused")
        else .ok ⟨t.exitCode⟩ := rfl
  refine (execute_result (t.surroundings write record) t.profile s).trans ?_
  rw [hshell, command_surroundings, result]
  cases t.refuses <;> rfl

theorem announce_surroundings :
    (announce (t.surroundings write record).console t.command s).2 =
      t.shownCalls.foldl (fun s e => e.on write record s) s := by
  rw [shownCalls]
  cases hclosed : t.closed
  · have hconsole : (t.surroundings write record).console = Console.accepting write := by
      simp [surroundings, hclosed]
    rw [hconsole, announce, command,
      Console.writePieces_accepting write (pieces_ne_nil (t.dir.getD []) t.profile)]
    simp [Console.accepting, List.foldl_map, Event.on]
  · have hconsole : (t.surroundings write record).console = closedConsole := by
      simp [surroundings, hclosed]
    rw [hconsole, announce_closedConsole]
    rfl

/-- a launch leaves what its calls leave, one after the other -/
theorem state_execute_eq_foldl :
    (execute (t.surroundings write record) t.profile s).state =
      t.calls.foldl (fun s e => e.on write record s) s := by
  have hshell (line : Bytes) (s : σ) :
      ((t.surroundings write record).shell.execute line s).2 = record line s := rfl
  rw [state_execute, command_surroundings, announce_surroundings, hshell, calls, List.foldl_append]
  rfl

end Trial
end Journal
end JarLauncher
