import Mathlib.Data.List.SplitOn

/-! Lists that are cut at some member, and lists in which one member takes the place of another. -/

namespace JarLauncher.Lists

variable {α : Type}

/-- a list that is cut before its last member, or at it -/
theorem cut_concat {l before after : List α} {x c : α} (h : l ++ [x] = before ++ c :: after) :
    (∃ more, after = more ++ [x] ∧ l = before ++ c :: more) ∨
      (after = [] ∧ c = x ∧ l = before) := by
  rcases List.eq_nil_or_concat after with rfl | ⟨more, y, rfl⟩
  · obtain ⟨hl, hx⟩ := List.append_inj' h rfl
    exact Or.inr ⟨rfl, (List.cons.inj hx).1.symm, hl⟩
  · rw [List.concat_eq_append] at h ⊢
    rw [← List.cons_append, ← List.append_assoc] at h
    obtain ⟨hl, hx⟩ := List.append_inj' h rfl
    exact Or.inl ⟨more, by rw [(List.cons.inj hx).1], hl⟩

/-- what is cut at `a` begins with all that stands before the first `a` -/
theorem splitOn_line [DecidableEq α] {a : α} {line : List α} (h : a ∉ line) (more : List α) :
    (line ++ a :: more).splitOn a = line :: more.splitOn a := by
  have hcut := List.splitOnP_append_cons (p := (· == a)) line more (beq_self_eq_true a)
  rw [← List.splitOn, ← List.splitOn, ← List.splitOn, List.splitOn_eq_singleton h] at hcut
  exact hcut

theorem set_getD (l : List α) (i : Nat) (d : α) : l.set i (l.getD i d) = l := by
  by_cases h : i < l.length
  · simp [h]
  · exact List.set_eq_of_length_le (Nat.le_of_not_lt h)

theorem getD_set_self {l : List α} {i : Nat} (h : i < l.length) (a d : α) :
    (l.set i a).getD i d = a := by
  simp [h]

theorem getD_set_ne {i j : Nat} (h : i ≠ j) (l : List α) (a d : α) :
    (l.set i a).getD j d = l.getD j d := by
  simp [h]

end JarLauncher.Lists
