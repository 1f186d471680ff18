import Mathlib.Data.List.GetD
import JarLauncher.Proofs.Journal.Calls
import JarLauncher.Session

/-! What one step does to a session. A step that makes no handle is a series of calls through its
handle. They make of the handle's journal what they make of any journal; this shows through every
handle on the same two cells, and through none on two others. So steps on journals that are apart
can be taken in either order. -/

namespace JarLauncher.Session

namespace Step

/-- the handle that a step is addressed to -/
def handle? : Step → Option Nat
  | create => none
  | clone h | write h _ | flush h | record h _ | launch h _ => some h

def makesHandle : Step → Bool
  | create | clone _ => true
  | _ => false

/-- the same step, addressed to the handle `h` -/
def readdress (h : Nat) : Step → Step
  | create => create
  | clone _ => clone h
  | write _ data => write h data
  | flush _ => flush h
  | record _ line => record h line
  | launch _ trial => launch h trial

/-- the calls that a step makes on the journal that it is addressed to -/
def calls : Step → List Journal.Event
  | create | clone _ => []
  | write _ data => [.write data]
  | flush _ => [.flush]
  | record _ line => [.record line]
  | launch _ trial => trial.calls

/-- what a step answers when there are `n` handles -/
def answer (n : Nat) : Step → Result
  | create | clone _ => .handle n
  | write _ data => .count data.length
  | flush _ => .flushed
  | record _ _ => .recorded
  | launch _ trial => .launched trial.result

/-- the handle whose journal a step shows when there are `n` handles -/
def shown (n : Nat) : Step → Nat
  | create | clone _ => n
  | write h _ | flush h | record h _ | launch h _ => h

theorem makesHandle_readdress (x : Step) (h : Nat) :
    (x.readdress h).makesHandle = x.makesHandle := by cases x <;> rfl

theorem calls_readdress (x : Step) (h : Nat) : (x.readdress h).calls = x.calls := by cases x <;> rfl

theorem answer_readdress (x : Step) (h n : Nat) : (x.readdress h).answer n = x.answer n := by
  cases x <;> rfl

/-- only a step that makes a handle has to know how many there are -/
theorem answer_eq {x : Step} (hx : x.makesHandle = false) (m n : Nat) : x.answer m = x.answer n := by
  cases x <;> first | rfl | cases hx

theorem exists_handle {x : Step} (hx : x.makesHandle = false) : ∃ h, x.handle? = some h := by
  cases x with
  | create | clone => cases hx
  | write h | flush h | record h | launch h => exact ⟨h, rfl⟩

theorem handle?_readdress {x : Step} {h : Nat} (hx : x.handle? = some h) (k : Nat) :
    (x.readdress k).handle? = some k := by
  cases x <;> first | rfl | cases hx

theorem shown_eq {x : Step} {h : Nat} (hx : x.makesHandle = false) (hhandle : x.handle? = some h)
    (n : Nat) : x.shown n = h := by
  cases x <;> first | exact Option.some.inj hhandle | cases hx

theorem shown_of_makesHandle {x : Step} (hx : x.makesHandle = true) (n : Nat) : x.shown n = n := by
  cases x <;> first | rfl | cases hx

end Step

/-- two handles that have no cell in common -/
structure Handle.Apart (a b : Handle) : Prop where
  entries : a.entries ≠ b.entries
  pending : a.pending ≠ b.pending

theorem Handle.Apart.symm {a b : Handle} (h : a.Apart b) : b.Apart a :=
  ⟨h.entries.symm, h.pending.symm⟩

theorem Handle.Apart.ne {a b : Handle} (h : a.Apart b) : a ≠ b :=
  fun heq => h.entries (congrArg Handle.entries heq)

/-- both cells that a handle names are there -/
structure Names (s : Session) (h : Nat) : Prop where
  entries : (s.handle h).entries < s.entries.length
  pending : (s.handle h).pending < s.pending.length

variable (s : Session) {h k : Nat}

/-- a session with another journal in the two cells of a handle -/
def put (h : Nat) (j : Journal) : Session :=
  { s with
    entries := s.entries.set (s.handle h).entries j.entries
    pending := s.pending.set (s.handle h).pending j.pending }

@[simp] theorem handle_put (h : Nat) (j : Journal) (k : Nat) : (s.put h j).handle k = s.handle k := rfl

@[simp] theorem handles_put (h : Nat) (j : Journal) : (s.put h j).handles = s.handles := rfl

theorem Names.put {s : Session} (hnames : s.Names k) (h : Nat) (j : Journal) : (s.put h j).Names k :=
  ⟨hnames.entries.trans_eq List.length_set.symm, hnames.pending.trans_eq List.length_set.symm⟩

theorem put_journal (h : Nat) : s.put h (s.journal h) = s := by
  simp only [put, journal, entriesOf, pendingOf, Lists.set_getD]

theorem put_put (h : Nat) (i j : Journal) : (s.put h i).put h j = s.put h j := by
  simp only [put, handle, List.set_set]

theorem put_of_handle_eq (hcells : s.handle h = s.handle k) (j : Journal) : s.put h j = s.put k j := by
  rw [put, put, hcells]

theorem journal_eq_getD {cells : Handle} (hcells : s.handle h = cells) :
    s.journal h = ⟨s.entries.getD cells.entries [], s.pending.getD cells.pending []⟩ := by
  subst hcells
  rfl

theorem journal_of_handle_eq (hcells : s.handle h = s.handle k) : s.journal h = s.journal k := by
  rw [journal_eq_getD s hcells]
  rfl

theorem journal_put (hnames : s.Names h) (j : Journal) : (s.put h j).journal h = j := by
  rw [journal, entriesOf, pendingOf]
  exact congrArg₂ Journal.mk (Lists.getD_set_self hnames.entries _ _)
    (Lists.getD_set_self hnames.pending _ _)

/-- what is put into two cells is not seen through a handle on two others -/
theorem journal_put_apart (hapart : (s.handle h).Apart (s.handle k)) (j : Journal) :
    (s.put h j).journal k = s.journal k := by
  rw [journal, entriesOf, pendingOf]
  exact congrArg₂ Journal.mk (Lists.getD_set_ne hapart.entries _ _ _)
    (Lists.getD_set_ne hapart.pending _ _ _)

theorem put_comm (hapart : (s.handle h).Apart (s.handle k)) (i j : Journal) :
    (s.put h i).put k j = (s.put k j).put h i :=
  congrArg₂ (fun entries pending => { s with entries := entries, pending := pending })
    (List.set_comm _ _ hapart.entries) (List.set_comm _ _ hapart.pending)

/-! Calls through a handle, cell by cell, and what they make of its journal. -/

/-- a session after a call through a handle -/
def after (h : Nat) (s : Session) (e : Journal.Event) : Session := e.on (write h) (record h) s

theorem modify_entries (h : Nat) (new : List Journal.Entry) :
    s.entries.modify (s.handle h).entries (· ++ new) =
      s.entries.set (s.handle h).entries (s.entriesOf h ++ new) := List.modify_eq_set ..

theorem append_eq (h : Nat) (new : List Journal.Entry) :
    s.append h new = s.put h ⟨s.entriesOf h ++ new, s.pendingOf h⟩ := by
  rw [append, put, modify_entries, pendingOf, Lists.set_getD]

/-- a call through a handle is a call on its journal -/
theorem after_eq_put (h : Nat) (e : Journal.Event) :
    s.after h e = s.put h ((s.journal h).after e) := by
  cases e with
  | write data =>
    exact congrArg (fun entries => { (s.keep h _) with entries := entries }) (s.modify_entries h _)
  | flush => exact (s.put_journal h).symm
  | record line => exact s.append_eq h [.executed line]

variable {s}

theorem foldl_after (hnames : s.Names h) (events : List Journal.Event) :
    events.foldl (after h) s = s.put h ((s.journal h).replay events) := by
  induction events generalizing s with
  | nil => exact (s.put_journal h).symm
  | cons e events ih =>
    rw [List.foldl_cons, after_eq_put, ih (hnames.put h _), journal_put s hnames, put_put]
    rfl

theorem handles_foldl_after (s : Session) (h : Nat) (events : List Journal.Event) :
    (events.foldl (after h) s).handles = s.handles := by
  induction events generalizing s with
  | nil => rfl
  | cons e events ih => rw [List.foldl_cons, ih, after_eq_put, handles_put]

/-! Steps. -/

/-- what a step shows: its answer, and the journal as it is then -/
def observe (s : Session) (x : Step) : Result × Journal :=
  ((s.step x).1, (s.step x).2.2.journal (s.step x).2.1)

/-- the session after a step -/
def next (s : Session) (x : Step) : Session := (s.step x).2.2

variable {x y : Step}

/-- what a step shows is its answer, and the journal of the handle that it is about -/
theorem observe_eq (s : Session) (x : Step) :
    s.observe x = (x.answer s.handles.length, (s.next x).journal (x.shown s.handles.length)) := by
  cases x with
  | create | clone | write | flush | record => rfl
  | launch h trial =>
    exact congrArg (fun answer => (Result.launched answer, (s.next (.launch h trial)).journal h))
      (trial.result_execute (write h) (record h) s)

/-- a step that makes no handle makes its calls, one after the other -/
theorem next_eq_foldl (hx : x.makesHandle = false) (hhandle : x.handle? = some h) :
    s.next x = x.calls.foldl (after h) s := by
  cases x with
  | create | clone => cases hx
  | write | flush | record => cases hhandle; rfl
  | launch _ trial =>
    cases hhandle
    exact trial.state_execute_eq_foldl (write h) (record h) s

theorem next_eq (hnames : s.Names h) (hx : x.makesHandle = false) (hhandle : x.handle? = some h) :
    s.next x = s.put h ((s.journal h).replay x.calls) :=
  (next_eq_foldl hx hhandle).trans (foldl_after hnames x.calls)

theorem observe_eq_replay (hnames : s.Names h) (hx : x.makesHandle = false)
    (hhandle : x.handle? = some h) :
    s.observe x = (x.answer s.handles.length, (s.journal h).replay x.calls) := by
  rw [observe_eq, Step.shown_eq hx hhandle, next_eq hnames hx hhandle, journal_put s hnames]

/-- a session with one more handle, on the given cells -/
def addHandle (s : Session) (cells : Handle) : Session := { s with handles := s.handles ++ [cells] }

theorem handle_addHandle (s : Session) (cells : Handle) (hh : h < s.handles.length) :
    (s.addHandle cells).handle h = s.handle h := by
  simp [addHandle, handle, List.getElem?_append_left hh]

theorem handle_addHandle_last (s : Session) (cells : Handle) :
    (s.addHandle cells).handle s.handles.length = cells := by
  simp [addHandle, handle]

theorem journal_addHandle (s : Session) (cells : Handle) (hh : h < s.handles.length) :
    (s.addHandle cells).journal h = s.journal h := by
  rw [journal_eq_getD _ (handle_addHandle s cells hh)]
  rfl

theorem put_addHandle (s : Session) (cells : Handle) (hh : h < s.handles.length) (j : Journal) :
    (s.addHandle cells).put h j = (s.put h j).addHandle cells := by
  rw [put, handle_addHandle s cells hh]
  rfl

theorem next_clone (s : Session) (k : Nat) : s.next (.clone k) = s.addHandle (s.handle k) := rfl

theorem observe_clone (s : Session) (k : Nat) :
    s.observe (.clone k) = (.handle s.handles.length, s.journal k) := by
  rw [observe_eq, next_clone, Step.shown_of_makesHandle rfl,
    journal_eq_getD _ (handle_addHandle_last s _)]
  rfl

theorem Names.addHandle (hnames : s.Names h) (cells : Handle) (hh : h < s.handles.length) :
    (s.addHandle cells).Names h := by
  have hcells := handle_addHandle s cells hh
  exact ⟨hcells ▸ hnames.entries, hcells ▸ hnames.pending⟩

/-- a session with two cells more, in which nothing is yet -/
def addCells (s : Session) : Session :=
  { s with entries := s.entries ++ [[]], pending := s.pending ++ [[]] }

/-- the cells that are added next -/
def newCells (s : Session) : Handle := ⟨s.entries.length, s.pending.length⟩

theorem next_create (s : Session) : s.next .create = s.addCells.addHandle s.newCells := rfl

theorem Names.addCells (hnames : s.Names h) : s.addCells.Names h :=
  ⟨hnames.entries.trans_le (by simp [Session.addCells]),
    hnames.pending.trans_le (by simp [Session.addCells])⟩

theorem Names.apart_newCells (hnames : s.Names h) : (s.handle h).Apart s.newCells :=
  ⟨Nat.ne_of_lt hnames.entries, Nat.ne_of_lt hnames.pending⟩

theorem journal_addCells (hnames : s.Names h) : s.addCells.journal h = s.journal h :=
  congrArg₂ Journal.mk (List.getD_append _ _ _ _ hnames.entries)
    (List.getD_append _ _ _ _ hnames.pending)

/-- which of the handles on two cells a step is addressed to does not matter -/
theorem readdress_of_handle_eq (hnames : s.Names h) (hhandle : x.handle? = some h)
    (hcells : s.handle h = s.handle k) :
    s.observe (x.readdress k) = s.observe x ∧ s.next (x.readdress k) = s.next x := by
  cases hx : x.makesHandle
  · have hnames' : s.Names k := ⟨hcells ▸ hnames.entries, hcells ▸ hnames.pending⟩
    have hx' := (x.makesHandle_readdress k).trans hx
    have hhandle' := Step.handle?_readdress hhandle k
    rw [observe_eq_replay hnames hx hhandle, observe_eq_replay hnames' hx' hhandle',
      next_eq hnames hx hhandle, next_eq hnames' hx' hhandle', Step.calls_readdress,
      Step.answer_readdress, put_of_handle_eq s hcells, journal_of_handle_eq s hcells]
    exact ⟨rfl, rfl⟩
  · cases x with
    | create | write | flush | record | launch => cases hx <;> cases hhandle
    | clone =>
      cases hhandle
      rw [Step.readdress, observe_clone, observe_clone, next_clone, next_clone, hcells,
        journal_of_handle_eq s hcells]
      exact ⟨rfl, rfl⟩

/-- Steps that may change places: neither changes what the other shows, nor does their order change
what comes of them. -/
structure Independent (s : Session) (x y : Step) : Prop where
  second : (s.next x).observe y = s.observe y
  first : (s.next y).observe x = s.observe x
  next : (s.next x).next y = (s.next y).next x

theorem Independent.symm (hxy : s.Independent x y) : s.Independent y x :=
  ⟨hxy.first, hxy.second, hxy.next.symm⟩

/-- steps on journals that are apart, of which the first makes no handle -/
theorem independent_of_apart (hx : x.makesHandle = false) (hhx : x.handle? = some h)
    (hhy : y.handle? = some k) (hnh : s.Names h) (hnk : s.Names k) (hh : h < s.handles.length)
    (hapart : (s.handle h).Apart (s.handle k)) : s.Independent x y := by
  cases hy : y.makesHandle
  · have hnh' := hnh.put k ((s.journal k).replay y.calls)
    have hnk' := hnk.put h ((s.journal h).replay x.calls)
    refine ⟨?_, ?_, ?_⟩
    · rw [next_eq hnh hx hhx, observe_eq_replay hnk' hy hhy, observe_eq_replay hnk hy hhy,
        journal_put_apart s hapart, handles_put]
    · rw [next_eq hnk hy hhy, observe_eq_replay hnh' hx hhx, observe_eq_replay hnh hx hhx,
        journal_put_apart s hapart.symm, handles_put]
    · rw [next_eq hnh hx hhx, next_eq hnk hy hhy, next_eq hnk' hy hhy, next_eq hnh' hx hhx,
        journal_put_apart s hapart, journal_put_apart s hapart.symm, put_comm s hapart]
  · cases y with
    | create | write | flush | record | launch => cases hy <;> cases hhy
    | clone =>
      cases hhy
      have hnh' := hnh.addHandle (s.handle k) hh
      refine ⟨?_, ?_, ?_⟩
      · rw [next_eq hnh hx hhx, observe_clone, observe_clone, journal_put_apart s hapart,
          handles_put]
      · rw [next_clone, observe_eq_replay hnh' hx hhx, observe_eq_replay hnh hx hhx,
          journal_addHandle s _ hh, x.answer_eq hx]
      · rw [next_eq hnh hx hhx, next_clone, next_clone, next_eq hnh' hx hhx,
          journal_addHandle s _ hh, put_addHandle s _ hh, handle_put]

end JarLauncher.Session
