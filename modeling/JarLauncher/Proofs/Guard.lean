import JarLauncher.Interpreter

/-! What a guard changes and what it leaves alone. However many signals it has got to, those are
ignored and all others are as they were; what it keeps is what was done before; and putting part of
it back changes the signals of that part alone. -/

namespace JarLauncher

namespace Dispositions

/-- put back what was done about some signals, in order -/
def restored (d : Dispositions) (pairs : List (Signal × Disposition)) : Dispositions :=
  pairs.foldl (fun d (s, a) => d.set s a) d

theorem restored_apply {entry : Dispositions} {pairs : List (Signal × Disposition)}
    (h : ∀ p ∈ pairs, p.2 = entry p.1) (d : Dispositions) (s : Signal) :
    d.restored pairs s = if s ∈ pairs.map Prod.fst then entry s else d s := by
  induction pairs generalizing d with
  | nil => rfl
  | cons p pairs ih =>
    obtain ⟨hp, hpairs⟩ := List.forall_mem_cons.1 h
    change (d.set p.1 p.2).restored pairs s = _
    rw [ih hpairs, List.map_cons]
    by_cases hrest : s ∈ pairs.map Prod.fst
    · rw [if_pos hrest, if_pos (List.mem_cons_of_mem _ hrest)]
    · by_cases hs : s = p.1
      · subst hs
        rw [if_neg hrest, if_pos List.mem_cons_self, set_same, hp]
      · rw [if_neg hrest, if_neg (by simp [hs, hrest]), set_other d p.2 hs]

end Dispositions

namespace Guard

theorem mem_interrupts {s : Signal} : s ∈ interrupts ↔ s = .int ∨ s = .quit := by
  simp [interrupts]

theorem nodup_interrupts : interrupts.Nodup := by decide

/-- what is kept, and what is done, once some signals are ignored -/
theorem foldl_ignore {l : List Signal} (hl : l.Nodup) (g : Guard) (d : Dispositions) :
    l.foldl (ignore .own) (g, d) =
      (⟨g.saved ++ l.map fun s => (s, d s)⟩, fun s => if s ∈ l then .ignored else d s) := by
  induction l generalizing g d with
  | nil => simp
  | cons s l ih =>
    obtain ⟨hs, hl⟩ := List.nodup_cons.1 hl
    have hfirst : ignore .own (g, d) s = (⟨g.saved ++ [(s, d s)]⟩, d.set s .ignored) := rfl
    have hkept : (l.map fun t => (t, d.set s .ignored t)) = l.map fun t => (t, d t) := by
      refine List.map_congr_left fun t ht => ?_
      rw [Dispositions.set_other d .ignored (ne_of_mem_of_not_mem ht hs)]
    rw [List.foldl_cons, hfirst, ih hl]
    refine Prod.ext ?_ (funext fun t => ?_)
    · simp [hkept]
    · by_cases ht : t = s <;> simp [ht, Dispositions.set]

theorem engage_eq (d : Dispositions) :
    engage .own d =
      (⟨interrupts.map fun s => (s, d s)⟩, fun s => if s ∈ interrupts then .ignored else d s) :=
  foldl_ignore nodup_interrupts ⟨[]⟩ d

theorem saved_engage (d : Dispositions) :
    (engage .own d).1.saved = interrupts.map fun s => (s, d s) := by rw [engage_eq]

theorem engage_ignored (d : Dispositions) {s : Signal} (h : s = .int ∨ s = .quit) :
    (engage .own d).2 s = .ignored := by
  rw [engage_eq]
  exact if_pos (mem_interrupts.2 h)

theorem engage_other (d : Dispositions) {s : Signal} (h : ¬ (s = .int ∨ s = .quit)) :
    (engage .own d).2 s = d s := by
  rw [engage_eq]
  exact if_neg (mt mem_interrupts.1 h)

/-- what is kept is what was done before -/
theorem eq_of_mem_saved (d : Dispositions) {p : Signal × Disposition}
    (h : p ∈ (engage .own d).1.saved) : p.2 = d p.1 := by
  rw [saved_engage] at h
  obtain ⟨s, -, rfl⟩ := List.mem_map.1 h
  rfl

/-- putting back all that is kept, in whichever order, puts back all -/
theorem restored_engage (d : Dispositions) {pairs : List (Signal × Disposition)}
    (h : ∀ p, p ∈ pairs ↔ p ∈ (engage .own d).1.saved) : (engage .own d).2.restored pairs = d := by
  funext s
  rw [Dispositions.restored_apply fun p hp => eq_of_mem_saved d ((h p).1 hp)]
  split
  · rfl
  · rename_i hs
    refine engage_other d fun hmem => hs ?_
    refine List.mem_map.2 ⟨(s, d s), (h _).2 ?_, rfl⟩
    rw [saved_engage]
    exact List.mem_map.2 ⟨s, mem_interrupts.2 hmem, rfl⟩

theorem restored_saved (d : Dispositions) :
    (engage .own d).2.restored (engage .own d).1.saved = d := restored_engage d fun _ => Iff.rfl

theorem restored_saved_reverse (d : Dispositions) :
    (engage .own d).2.restored (engage .own d).1.saved.reverse = d :=
  restored_engage d fun _ => List.mem_reverse

theorem restoreInChild_engage (d : Dispositions) :
    (engage .own d).1.restoreInChild (engage .own d).2 = d := restored_saved d

theorem restore_engage (d : Dispositions) :
    (engage .own d).1.restore .own (engage .own d).2 = d := restored_saved_reverse d

/-- on the way in, a signal that nothing is done about is one that nothing was done about -/
theorem default_of_ignoring {d : Dispositions} {done left : List Signal}
    (h : interrupts = done ++ left) {s : Signal}
    (hs : (done.foldl (ignore .own) (⟨[]⟩, d)).2 s = .default) : d s = .default := by
  have hdone : done.Nodup := (List.nodup_append.1 (h ▸ nodup_interrupts)).1
  rw [foldl_ignore hdone] at hs
  dsimp only at hs
  split at hs
  · cases hs
  · exact hs

/-- and so it is on the way back -/
theorem default_of_restoring {d : Dispositions} {done : List (Signal × Disposition)}
    (h : ∀ p ∈ done, p ∈ (engage .own d).1.saved) {s : Signal}
    (hs : (engage .own d).2.restored done s = .default) : d s = .default := by
  rw [Dispositions.restored_apply fun p hp => eq_of_mem_saved d (h p hp)] at hs
  split at hs
  · exact hs
  · rw [engage_eq] at hs
    dsimp only at hs
    split at hs
    · cases hs
    · exact hs

end Guard
end JarLauncher
