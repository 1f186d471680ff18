import JarLauncher.Journal
import JarLauncher.Proofs.Lists
import JarLauncher.Proofs.Utf8.Ascii

/-! The lines of a journal. What ends with a newline each, and what follows the last of them, are
the octets; no line holds a newline of its own; and reading the whole as text and cutting it at its
newlines gives the same lines as reading each of them. -/

namespace JarLauncher.Journal

theorem lines_cons (b : UInt8) (bs : Bytes) : lines (b :: bs) = consLine b (lines bs) := rfl

theorem lines_of_notMem {bs : Bytes} (h : newline ∉ bs) : lines bs = ([], bs) := by
  induction bs with
  | nil => rfl
  | cons b bs ih =>
    obtain ⟨hb, hbs⟩ := not_or.1 (mt List.mem_cons.2 h)
    simp [lines_cons, ih hbs, consLine, Ne.symm hb]

theorem lines_line {line : Bytes} (h : newline ∉ line) (bs : Bytes) :
    lines (line ++ newline :: bs) = (line :: (lines bs).1, (lines bs).2) := by
  induction line with
  | nil => simp [lines_cons, consLine]
  | cons b line ih =>
    obtain ⟨hb, hline⟩ := not_or.1 (mt List.mem_cons.2 h)
    simp [lines_cons, ih hline, consLine, Ne.symm hb]

/-- octets have no newline, or they are cut at their first one -/
theorem lines_induction {P : Bytes → Prop} (rest : ∀ bs, newline ∉ bs → P bs)
    (line : ∀ line bs, newline ∉ line → P bs → P (line ++ newline :: bs)) (bs : Bytes) : P bs := by
  by_cases h : newline ∈ bs
  · obtain ⟨first, more, hbs, hfirst⟩ := List.eq_append_cons_of_mem h
    have hshorter : more.length < bs.length := by rw [hbs, List.length_append, List.length_cons]; omega
    rw [hbs]
    exact line first more hfirst (lines_induction rest line more)
  · exact rest bs h
termination_by bs.length

theorem flatMap_lines (bs : Bytes) :
    (lines bs).1.flatMap (· ++ [newline]) ++ (lines bs).2 = bs := by
  induction bs using lines_induction with
  | rest bs h => rw [lines_of_notMem h]; rfl
  | line line bs h ih => simp [lines_line h, ih]

theorem notMem_lines (bs : Bytes) :
    (∀ line ∈ (lines bs).1, newline ∉ line) ∧ newline ∉ (lines bs).2 := by
  induction bs using lines_induction with
  | rest bs h => simpa [lines_of_notMem h] using h
  | line line bs h ih => simpa [lines_line h, h] using ih

theorem length_lines (bs : Bytes) : (lines bs).1.length = bs.count newline := by
  induction bs using lines_induction with
  | rest bs h => rw [lines_of_notMem h, List.count_eq_zero.2 h]; rfl
  | line line bs h ih => simp [lines_line h, ih, List.count_eq_zero.2 h]

/-- what waits after some octets goes before those that come next -/
theorem lines_append (a b : Bytes) :
    lines (a ++ b) =
      ((lines a).1 ++ (lines ((lines a).2 ++ b)).1, (lines ((lines a).2 ++ b)).2) := by
  induction a using lines_induction with
  | rest a h => rw [lines_of_notMem h]; rfl
  | line line a h ih => rw [List.append_assoc, List.cons_append, lines_line h, lines_line h, ih]; rfl

/-- cutting at each newline gives the ended lines and what follows them -/
theorem splitOn_eq (bs : Bytes) : bs.splitOn newline = (lines bs).1 ++ [(lines bs).2] := by
  induction bs using lines_induction with
  | rest bs h => rw [lines_of_notMem h, List.splitOn_eq_singleton h]; rfl
  | line line bs h ih => rw [Lists.splitOn_line h, lines_line h, ih]; rfl

theorem ofUInt8_newline : Char.ofUInt8 newline = '\n' := rfl

theorem newline_mem_lossy_iff {bs : Bytes} : '\n' ∈ (Utf8.lossy bs).toList ↔ newline ∈ bs := by
  rw [← ofUInt8_newline]
  exact Utf8.ofUInt8_mem_lossy_iff rfl

/-- Text is cut where its octets are: a newline is not within any encoding. -/
theorem splitOn_lossy (bs : Bytes) :
    (Utf8.lossy bs).toList.splitOn '\n' =
      (bs.splitOn newline).map fun line => (Utf8.lossy line).toList := by
  induction bs using lines_induction with
  | rest bs h =>
    rw [List.splitOn_eq_singleton h, List.splitOn_eq_singleton (mt newline_mem_lossy_iff.1 h)]
    rfl
  | line line bs h ih =>
    rw [Utf8.toList_lossy_append_cons rfl, ofUInt8_newline,
      Lists.splitOn_line (mt newline_mem_lossy_iff.1 h), Lists.splitOn_line h, ih]
    rfl

end JarLauncher.Journal
