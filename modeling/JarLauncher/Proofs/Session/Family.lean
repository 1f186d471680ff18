import Mathlib.Logic.Relation
import JarLauncher.Proofs.Session.Step

/-! Families of handles. A clone belongs to the family of the handle it was made of, and that is all
that makes families. Handles of one family name the same two cells, and handles of two families have
none in common. What a journal is after a series of steps comes of the calls that were made through
its family, and of no others. -/

namespace JarLauncher.Session

/-- how many handles there are after some steps -/
def handleCount (steps : List Step) : Nat := steps.countP Step.makesHandle + 1

/-- every step is addressed to a handle that is there when it is taken -/
def Addressed (steps : List Step) : Prop :=
  ∀ i, (hi : i < steps.length) → ∀ h ∈ steps[i].handle?, h < handleCount (steps.take i)

/-- one of the steps makes `new` as a clone of `old` -/
def Cloned (steps : List Step) (old new : Nat) : Prop :=
  ∃ before later, steps = before ++ .clone old :: later ∧ new = handleCount before

/-- handles that clonings connect, in whichever direction and over however many clones -/
def Family (steps : List Step) : Nat → Nat → Prop := Relation.EqvGen (Cloned steps)

instance (steps : List Step) : Decidable (Addressed steps) := by unfold Addressed; infer_instance

variable {steps more before later : List Step} {x : Step} {s : Session} {h k : Nat}

theorem handleCount_append :
    handleCount (steps ++ more) = handleCount steps + more.countP Step.makesHandle := by
  rw [handleCount, handleCount, List.countP_append]
  omega

theorem handleCount_concat (hx : x.makesHandle = false) :
    handleCount (steps ++ [x]) = handleCount steps := by
  simp [handleCount_append, hx]

theorem handleCount_concat_of_makesHandle (hx : x.makesHandle = true) :
    handleCount (steps ++ [x]) = handleCount steps + 1 := by
  simp [handleCount_append, hx]

theorem Addressed.lt (hs : Addressed (before ++ x :: later)) (hx : x.handle? = some h) :
    h < handleCount before := by
  have hi : before.length < (before ++ x :: later).length := by simp
  have hlt := hs before.length hi h (by simpa using hx)
  rwa [List.take_left] at hlt

theorem Addressed.of_append (hs : Addressed (steps ++ more)) : Addressed steps := by
  intro i hi h hx
  have hlt := hs i (by rw [List.length_append]; omega) h (by rwa [List.getElem_append_left hi])
  rwa [List.take_append_of_le_length (Nat.le_of_lt hi)] at hlt

theorem Addressed.lt_of_mem (hs : Addressed steps) (hmem : x ∈ steps)
    (hx : x.handle? = some h) : h < handleCount steps := by
  obtain ⟨before, later, rfl⟩ := List.append_of_mem hmem
  have hlt := hs.lt hx
  rw [handleCount_append]
  omega

theorem Cloned.append (hc : Cloned steps h k) (more : List Step) : Cloned (steps ++ more) h k := by
  obtain ⟨before, later, rfl, rfl⟩ := hc
  exact ⟨before, later ++ more, by simp, rfl⟩

theorem Family.append (hf : Family steps h k) (more : List Step) : Family (steps ++ more) h k :=
  Relation.EqvGen.mono (fun _ _ hc => hc.append more) _ _ hf

theorem Cloned.of_concat (hc : Cloned (steps ++ [x]) h k) :
    Cloned steps h k ∨ x = .clone h ∧ k = handleCount steps := by
  obtain ⟨before, later, hcut, rfl⟩ := hc
  rcases Lists.cut_concat hcut with ⟨more, -, rfl⟩ | ⟨-, rfl, rfl⟩
  · exact .inl ⟨before, more, rfl, rfl⟩
  · exact .inr ⟨rfl, rfl⟩

theorem cloned_concat (steps : List Step) (h : Nat) :
    Cloned (steps ++ [.clone h]) h (handleCount steps) := ⟨steps, [], rfl, rfl⟩

/-- a step that makes no handle and is addressed to the two cells -/
def actsAt (s : Session) (cells : Handle) (x : Step) : Bool :=
  !x.makesHandle && x.handle?.any fun h => s.handle h == cells

@[simp] theorem actsAt_put (s : Session) (h : Nat) (j : Journal) : (s.put h j).actsAt = s.actsAt := rfl

/-- the journal that the calls of some steps make of a fresh one -/
def held (steps : List Step) : Journal := Journal.replay Journal.empty (steps.flatMap Step.calls)

theorem held_append (steps more : List Step) :
    held (steps ++ more) = (held steps).replay (more.flatMap Step.calls) := by
  rw [held, List.flatMap_append, Journal.replay, List.foldl_append]
  rfl

/-- What the steps so far say of a session: which handles name the same cells and which are apart,
and what their journals are. -/
structure Situated (steps : List Step) (s : Session) : Prop where
  length : s.handles.length = handleCount steps
  names : ∀ h < handleCount steps, s.Names h
  cloned : ∀ h k, Cloned steps h k →
    h < handleCount steps ∧ k < handleCount steps ∧ s.handle h = s.handle k
  apart : ∀ h < handleCount steps, ∀ k < handleCount steps, ¬ Family steps h k →
    (s.handle h).Apart (s.handle k)
  journal : ∀ h < handleCount steps, s.journal h = held (steps.filter (s.actsAt (s.handle h)))

theorem situated_start : Situated [] start := by
  have hlt (h : Nat) (hh : h < handleCount []) : h = 0 := by simpa [handleCount] using hh
  refine ⟨rfl, ?_, ?_, ?_, ?_⟩
  · rintro h hh
    rw [hlt h hh]
    exact ⟨by decide, by decide⟩
  · rintro h k ⟨before, later, hcut, -⟩
    simp at hcut
  · rintro h hh k hk hfamily
    rw [hlt h hh, hlt k hk] at hfamily
    exact absurd (.refl _) hfamily
  · rintro h hh
    rw [hlt h hh]
    rfl

namespace Situated

variable {s' : Session}

/-- Handles that clonings connect name the same cells. -/
theorem handle_eq (hs : Situated steps s) (hf : Family steps h k) : s.handle h = s.handle k := by
  induction hf with
  | rel h k hc => exact (hs.cloned h k hc).2.2
  | refl h => rfl
  | symm h k _ ih => exact ih.symm
  | trans h k l _ _ ih₁ ih₂ => exact ih₁.trans ih₂

/-- Handles name the same cells exactly if they are of one family. -/
theorem handle_eq_iff (hs : Situated steps s) (hh : h < handleCount steps)
    (hk : k < handleCount steps) : s.handle h = s.handle k ↔ Family steps h k := by
  refine ⟨fun hcells => ?_, hs.handle_eq⟩
  by_contra hfamily
  exact (hs.apart h hh k hk hfamily).ne hcells

/-- Handles that do not name the same cells have none in common. -/
theorem apart_of_ne (hs : Situated steps s) (hh : h < handleCount steps)
    (hk : k < handleCount steps) (hcells : s.handle h ≠ s.handle k) :
    (s.handle h).Apart (s.handle k) :=
  hs.apart h hh k hk (mt hs.handle_eq hcells)

/-- steps on the handles that were there are told apart as before -/
theorem filter_actsAt (haddr : Addressed steps)
    (hcells : ∀ k < handleCount steps, s'.handle k = s.handle k) (cells : Handle) :
    steps.filter (s'.actsAt cells) = steps.filter (s.actsAt cells) := by
  refine List.filter_congr fun y hy => ?_
  rw [actsAt, actsAt]
  cases hhandle : y.handle? with
  | none => rfl
  | some k => simp [hcells k (haddr.lt_of_mem hy hhandle)]

theorem act (hs : Situated steps s) (hx : x.makesHandle = false) (hhandle : x.handle? = some h)
    (hh : h < handleCount steps) : Situated (steps ++ [x]) (s.next x) := by
  rw [next_eq (hs.names h hh) hx hhandle]
  have hcount : handleCount (steps ++ [x]) = handleCount steps := handleCount_concat hx
  refine ⟨?_, ?_, ?_, ?_, ?_⟩
  · rw [hcount]
    exact hs.length
  · rw [hcount]
    exact fun k hk => (hs.names k hk).put h _
  · intro a b hc
    rw [hcount]
    rcases hc.of_concat with hc | ⟨rfl, -⟩
    · exact hs.cloned a b hc
    · cases hx
  · rw [hcount]
    exact fun a ha b hb hfamily => hs.apart a ha b hb fun hf => hfamily (hf.append [x])
  · rw [hcount]
    intro k hk
    rw [List.filter_append, held_append, actsAt_put, handle_put, ← hs.journal k hk]
    by_cases hcells : s.handle h = s.handle k
    · rw [put_of_handle_eq s hcells, journal_put s (hs.names k hk), journal_of_handle_eq s hcells]
      simp [actsAt, hx, hhandle, hcells]
    · rw [journal_put_apart s (hs.apart_of_ne hh hk hcells)]
      simp [actsAt, hx, hhandle, hcells, Journal.replay]

/-- One handle more: what is to be shown is about that handle alone. -/
theorem makeHandle (hs : Situated steps s) (haddr : Addressed (steps ++ [x]))
    (hx : x.makesHandle = true) (hlength : s'.handles.length = s.handles.length + 1)
    (hcells : ∀ k < handleCount steps, s'.handle k = s.handle k)
    (hjournal : ∀ k < handleCount steps, s'.journal k = s.journal k)
    (hnames : ∀ k < handleCount steps + 1, s'.Names k)
    (hcloned : ∀ h, x = .clone h →
      h < handleCount steps ∧ s.handle h = s'.handle (handleCount steps))
    (hapart : ∀ k < handleCount steps, ¬ Family (steps ++ [x]) k (handleCount steps) →
      (s.handle k).Apart (s'.handle (handleCount steps)))
    (hheld : s'.journal (handleCount steps) =
      held (steps.filter (s.actsAt (s'.handle (handleCount steps))))) :
    Situated (steps ++ [x]) s' := by
  have hcount : handleCount (steps ++ [x]) = handleCount steps + 1 :=
    handleCount_concat_of_makesHandle hx
  have hcases (k : Nat) (hk : k < handleCount (steps ++ [x])) :
      k < handleCount steps ∨ k = handleCount steps := by omega
  have hlast (cells : Handle) :
      (steps ++ [x]).filter (s'.actsAt cells) = steps.filter (s.actsAt cells) := by
    rw [List.filter_append, filter_actsAt haddr.of_append hcells]
    simp [actsAt, hx]
  refine ⟨?_, hcount ▸ hnames, ?_, ?_, ?_⟩
  · rw [hlength, hs.length, hcount]
  · intro a b hc
    rw [hcount]
    rcases hc.of_concat with hc | ⟨hclone, rfl⟩
    · obtain ⟨ha, hb, hab⟩ := hs.cloned a b hc
      rw [hcells a ha, hcells b hb]
      exact ⟨by omega, by omega, hab⟩
    · obtain ⟨ha, hab⟩ := hcloned a hclone
      rw [hcells a ha]
      exact ⟨by omega, by omega, hab⟩
  · intro a ha b hb hfamily
    rcases hcases a ha with ha | rfl <;> rcases hcases b hb with hb | rfl
    · rw [hcells a ha, hcells b hb]
      exact hs.apart a ha b hb fun hf => hfamily (hf.append [x])
    · rw [hcells a ha]
      exact hapart a ha hfamily
    · rw [hcells b hb]
      exact (hapart b hb fun hf => hfamily (hf.symm _ _)).symm
    · exact absurd (.refl _) hfamily
  · intro k hk
    rw [hlast]
    rcases hcases k hk with hk | rfl
    · rw [hjournal k hk, hcells k hk]
      exact hs.journal k hk
    · exact hheld

theorem clone (hs : Situated steps s) (haddr : Addressed (steps ++ [.clone h])) :
    Situated (steps ++ [.clone h]) (s.next (.clone h)) := by
  have hh : h < handleCount steps := haddr.lt rfl
  have hlast : (s.next (.clone h)).handle (handleCount steps) = s.handle h := by
    rw [next_clone, ← hs.length, handle_addHandle_last]
  refine hs.makeHandle haddr rfl ?_ ?_ ?_ ?_ ?_ ?_ ?_
  · simp [next_clone, addHandle]
  · exact fun k hk => handle_addHandle s _ (hs.length ▸ hk)
  · exact fun k hk => journal_addHandle s _ (hs.length ▸ hk)
  · intro k hk
    rcases Nat.lt_succ_iff_lt_or_eq.1 hk with hk | rfl
    · exact (hs.names k hk).addHandle _ (hs.length ▸ hk)
    · exact ⟨hlast ▸ (hs.names h hh).entries, hlast ▸ (hs.names h hh).pending⟩
  · rintro _ ⟨⟩
    exact ⟨hh, hlast.symm⟩
  · intro k hk hfamily
    rw [hlast]
    refine hs.apart k hk h hh fun hf => hfamily ?_
    exact (hf.append _).trans _ _ _ (.rel _ _ (cloned_concat steps h))
  · rw [hlast, ← hs.journal h hh]
    rw [journal_eq_getD _ hlast]
    rfl

theorem create (hs : Situated steps s) (haddr : Addressed (steps ++ [.create])) :
    Situated (steps ++ [.create]) (s.next .create) := by
  have hlength : s.addCells.handles.length = handleCount steps := hs.length
  have hlast : (s.next .create).handle (handleCount steps) = s.newCells := by
    rw [next_create, ← hlength, handle_addHandle_last]
  refine hs.makeHandle haddr rfl ?_ ?_ ?_ ?_ ?_ ?_ ?_
  · simp [next_create, addHandle, addCells]
  · exact fun k hk => handle_addHandle s.addCells _ (hlength ▸ hk)
  · intro k hk
    rw [next_create, journal_addHandle s.addCells _ (hlength ▸ hk), journal_addCells (hs.names k hk)]
  · intro k hk
    rcases Nat.lt_succ_iff_lt_or_eq.1 hk with hk | rfl
    · exact (hs.names k hk).addCells.addHandle _ (hlength ▸ hk)
    · constructor <;> rw [hlast] <;> simp [next_create, addHandle, addCells, newCells]
  · rintro _ ⟨⟩
  · intro k hk _
    rw [hlast]
    exact (hs.names k hk).apart_newCells
  · -- no step so far was addressed to the cells that are new
    have hnone : steps.filter (s.actsAt s.newCells) = [] := by
      refine List.filter_eq_nil_iff.2 fun y hy => ?_
      cases hhandle : y.handle? with
      | none => simp [actsAt, hhandle]
      | some k =>
        have hk := hs.names k (haddr.of_append.lt_of_mem hy hhandle)
        simp [actsAt, hhandle, hk.apart_newCells.ne]
    rw [hlast, hnone, journal_eq_getD _ hlast]
    simp [next_create, addHandle, addCells, newCells, held, Journal.replay, Journal.empty]

theorem step (hs : Situated steps s) (haddr : Addressed (steps ++ [x])) :
    Situated (steps ++ [x]) (s.next x) := by
  cases x with
  | create => exact hs.create haddr
  | clone h => exact hs.clone haddr
  | write h | flush h | record h | launch h => exact hs.act rfl rfl (haddr.lt rfl)

theorem run (hs : Situated before s) (haddr : Addressed (before ++ steps)) :
    Situated (before ++ steps) (s.run steps).2 := by
  induction steps generalizing before s with
  | nil => rwa [List.append_nil]
  | cons x steps ih =>
    rw [List.append_cons] at haddr ⊢
    exact ih (hs.step haddr.of_append) haddr

end Situated

theorem situated_run (haddr : Addressed steps) : Situated steps (start.run steps).2 :=
  situated_start.run haddr

end JarLauncher.Session
