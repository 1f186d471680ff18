import JarLauncher.Shell.Expansion

/-! Expanding words without quotes and expansions. Such a word is one field; unless there is a sign
of a pattern in it, nothing is asked of the shell or the system for it. -/

namespace JarLauncher.Shell

/-- words of octets alone, of which the first one does not ask for a home directory -/
structure Word.Literal (w : Word) : Prop where
  ne_nil : w ≠ []
  characters : ∀ x ∈ w, ∃ b, x.character? = some b
  head : w.head? ≠ some (.octet 126)

/-- what an octet of a word puts out -/
def Part.cell : Part → Cell
  | .octet b => .octet b false
  | .escaped b => .octet b true
  | _ => .mark

namespace Expansion

/-- the octets of a word are put out one after another -/
def Progress.word (p : Progress) (w : Word) : Progress := w.foldl (fun p x => p.cell x.cell) p

variable (output : Command → Sh Bytes)

theorem parts_cons {p : Progress} {x : Part} {b : UInt8} (hx : x.character? = some b)
    (ht : p.tilde = false ∨ x ≠ .octet 126) (hskip : p.skip = 0)
    (rest : List Part) :
    parts output { fields := true } p (x :: rest) =
      parts output { fields := true } (p.cell x.cell) rest := by
  cases x with
  | octet c =>
    rw [parts]
    have htilde : ¬ (p.tilde = true ∧ c = 126) := by
      rintro ⟨h, rfl⟩
      simp [h] at ht
    funext m k
    simp [hskip, htilde, Part.cell, Progress.octet, Progress.cell]
    rfl
  | escaped c =>
    rw [parts]
    simp [hskip, Part.cell]
  | _ => simp [Part.character?] at hx

theorem parts_literal {w : Word} (hw : ∀ x ∈ w, ∃ b, x.character? = some b) {p : Progress}
    (ht : p.tilde = false ∨ w.head? ≠ some (.octet 126)) (hskip : p.skip = 0) :
    parts output { fields := true } p w =
      pure (p.word w) := by
  induction w generalizing p with
  | nil =>
    rw [parts]
    rfl
  | cons x w ih =>
    obtain ⟨⟨b, hb⟩, hw⟩ := List.forall_mem_cons.1 hw
    rw [parts_cons output hb (by simpa using ht) hskip, Progress.word, List.foldl_cons]
    exact ih hw (.inl rfl) hskip

/-- the cells of a word make one run -/
theorem done_word (w : Word) {p : Progress} {cells : List Cell} (hp : p.done = [⟨.fixed, cells⟩]) :
    (p.word w).done = [⟨.fixed, (w.map Part.cell).reverse ++ cells⟩] := by
  unfold Progress.word
  induction w generalizing p cells with
  | nil => simpa using hp
  | cons x w ih =>
    have hx : (p.cell x.cell).done = [⟨.fixed, x.cell :: cells⟩] := by
      simp [Progress.cell, hp, Expanded.push]
    rw [List.foldl_cons, ih hx]
    simp

theorem fields_fixed {cells : List Cell} (h : cells ≠ []) (separators : Bytes) :
    Expanded.fields [⟨.fixed, cells⟩] separators none = [cells.reverse] := by
  simp [Expanded.fields, Splitting.run, Splitting.start, Splitting.finish, Splitting.close, h]

theorem text_cells {w : Word} (hw : ∀ x ∈ w, ∃ b, x.character? = some b) :
    Field.text (w.map Part.cell) = w.characters := by
  induction w with
  | nil => rfl
  | cons x w ih =>
    obtain ⟨⟨b, hb⟩, hw⟩ := List.forall_mem_cons.1 hw
    have hx : x.cell.octet? = x.character? := by
      cases x with
      | octet c => rfl
      | escaped c => rfl
      | _ => simp [Part.character?] at hb
    simp only [Field.text, Word.characters, List.map_cons, List.filterMap_cons, hx, hb] at ih ⊢
    rw [ih hw]

/-- a word of octets is one field -/
theorem fieldsOf_literal {w : Word} (hw : w.Literal) :
    fieldsOf output w = argumentsOf (w.map Part.cell) := by
  have hparts := parts_literal output hw.characters (p := { done := [], tilde := true })
    (.inr hw.head) rfl
  have hdone : (Progress.word { done := [], tilde := true } w).done =
      [⟨.fixed, (w.map Part.cell).reverse⟩] := by
    obtain ⟨x, w, rfl⟩ := List.exists_cons_of_ne_nil hw.ne_nil
    rw [Progress.word, List.foldl_cons]
    exact (done_word w rfl).trans (by simp)
  have hfields (separators : Bytes) : Expanded.fields [⟨.fixed, (w.map Part.cell).reverse⟩]
      separators none = [w.map Part.cell] := by
    rw [fields_fixed (by simpa using hw.ne_nil), List.reverse_reverse]
  rw [fieldsOf, hparts]
  funext m k
  change (List.mapM argumentsOf ((Progress.word _ w).done.fields m.separators none) >>= fun all =>
    pure all.flatten) m k = _
  rw [hdone, hfields]
  refine congrArg (argumentsOf (w.map Part.cell) m) (funext fun r => ?_)
  rcases r with ⟨r, m'⟩
  cases r with
  | error stop => rfl
  | ok args => exact congrArg (fun all => k (.ok all, m')) (by simp)

theorem hasOption_bind {α : Type} (c : Char) (g : Bool → Sh α) (m : Memory)
    (k : Except Stop α × Memory → Unix.Activity) :
    (Sh.hasOption c >>= g) m k = g (m.options.contains c) m k := rfl

theorem argumentsOf_plain {f : Field} (hf : ∀ b ∈ Field.text f, ¬ Pattern.isSign b) :
    argumentsOf f = pure [Field.text f] := by
  have hany : (Field.text f).any Pattern.isSign = false := by simpa using hf
  rw [argumentsOf]
  simp [hany]
  rfl

/-- with a sign in it the system is asked for the paths that it matches -/
theorem argumentsOf_ne_pure {f : Field} {b : UInt8} (hb : b ∈ Field.text f) (hs : Pattern.isSign b)
    {m : Memory} (hm : m.options.contains 'f' = false) (args : List Bytes) :
    argumentsOf f ≠ pure args := by
  intro h
  have hany : (Field.text f).any Pattern.isSign = true := List.any_eq_true.2 ⟨b, hb, hs⟩
  have happly := congrFun (congrFun h m) fun _ => .exit 0
  rw [argumentsOf, hasOption_bind, hm, hany] at happly
  nomatch happly

theorem pure_injective {α : Type} [DecidableEq α] (m : Memory) {a b : α}
    (h : (pure a : Sh α) = pure b) : a = b := by
  have happly := congrFun (congrFun h m) fun r =>
    .exit (if r.1.toOption = some b then 0 else 1)
  have hstatus := Unix.Activity.exit.inj happly
  simpa [Except.toOption] using hstatus

/-- A word of octets is one field as it stands, whatever files there are, exactly if no octet of it
is a sign of a pattern. -/
theorem fieldsOf_eq_pure_iff {w : Word} (hw : w.Literal) {m : Memory}
    (hm : m.options.contains 'f' = false) (bs : Bytes) :
    fieldsOf output w = pure [bs] ↔ w.characters = bs ∧ ∀ b ∈ bs, ¬ Pattern.isSign b := by
  have htext := text_cells hw.characters
  rw [fieldsOf_literal output hw]
  constructor
  · intro h
    have hsign : ∀ b ∈ w.characters, ¬ Pattern.isSign b := fun b hb hs =>
      argumentsOf_ne_pure (by rwa [htext]) hs hm _ h
    rw [argumentsOf_plain (by rwa [htext]), htext] at h
    have heq : w.characters = bs := by simpa using pure_injective m h
    exact ⟨heq, heq ▸ hsign⟩
  · rintro ⟨rfl, hsign⟩
    rw [argumentsOf_plain (by rwa [htext]), htext]

end Expansion
end JarLauncher.Shell
