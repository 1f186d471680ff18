import JarLauncher.Proofs.Attempt

/-! The write loop of a console. `Writes` says which calls may be made on the way through a text:
each of them offers what comes next, and goes on behind what was taken of it. Every series of
writes is one of these, and what holds of a run of the loop is read off them. -/

namespace JarLauncher

variable {σ : Type}

/-- the writes by which `text` is written, and the failure that ends them early -/
inductive Writes : (text : Bytes) → (failure : Option IoError) → (calls : List Attempt) → Prop
  | done : Writes [] none []
  | part {offer rest failure calls} (n : Nat) (h : offer ≠ [])
      (more : Writes (offer.drop (n + 1) ++ rest) failure calls) :
      Writes (offer ++ rest) failure (.write offer (.accepted (n + 1)) :: calls)
  | again {offer rest failure calls} (e : IoError) (h : offer ≠ []) (he : e.isInterrupted)
      (more : Writes (offer ++ rest) failure calls) :
      Writes (offer ++ rest) failure (.write offer (.failed e) :: calls)
  | refused {offer rest} (h : offer ≠ []) :
      Writes (offer ++ rest) (some Console.refusal) [.write offer (.accepted 0)]
  | failed {offer rest} (e : IoError) (h : offer ≠ []) (he : e.isInterrupted = false) :
      Writes (offer ++ rest) (some e) [.write offer (.failed e)]

namespace Writes

variable {text : Bytes} {failure : Option IoError} {calls : List Attempt}

/-- what was taken and what is left are the text -/
theorem accepted_append (h : Writes text failure calls) :
    ∃ left, Attempt.accepted calls ++ left = text ∧ (failure = none → left = []) := by
  induction h with
  | done => exact ⟨[], rfl, fun _ => rfl⟩
  | @part offer rest failure calls n h more ih =>
    obtain ⟨left, hl, hf⟩ := ih
    refine ⟨left, ?_, hf⟩
    calc
      Attempt.accepted (.write offer (.accepted (n + 1)) :: calls) ++ left =
          offer.take (n + 1) ++ (Attempt.accepted calls ++ left) := by
        simp [Attempt.taken]
      _ = offer ++ rest := by rw [hl, ← List.append_assoc, List.take_append_drop]
  | again e h he more ih =>
    obtain ⟨left, hl, hf⟩ := ih
    exact ⟨left, by simpa [Attempt.taken] using hl, hf⟩
  | @refused offer rest h => exact ⟨offer ++ rest, by simp [Attempt.taken], by simp⟩
  | @failed offer rest e h he => exact ⟨offer ++ rest, by simp [Attempt.taken], by simp⟩

theorem accepted_prefix (h : Writes text failure calls) : Attempt.accepted calls <+: text := by
  obtain ⟨left, hl, -⟩ := h.accepted_append
  exact ⟨left, hl⟩

theorem accepted_eq (h : Writes text none calls) : Attempt.accepted calls = text := by
  obtain ⟨left, hl, hn⟩ := h.accepted_append
  simpa [hn rfl] using hl

/-- every write offers something, and it comes right behind what was taken before -/
theorem offer_prefix (h : Writes text failure calls) {before after : List Attempt}
    {offer : Bytes} {answer : Written} (hc : calls = before ++ .write offer answer :: after) :
    offer ≠ [] ∧ Attempt.accepted before ++ offer <+: text := by
  induction h generalizing before with
  | done => simp at hc
  | @part next rest failure calls n h more ih =>
    cases before with
    | nil =>
      cases (List.cons.inj hc).1
      exact ⟨h, rest, rfl⟩
    | cons c before =>
      obtain ⟨rfl, htail⟩ := List.cons.inj hc
      obtain ⟨ho, left, hl⟩ := ih htail
      refine ⟨ho, left, ?_⟩
      simp only [Attempt.accepted_cons, Attempt.taken, List.append_assoc] at hl ⊢
      rw [hl, ← List.append_assoc, List.take_append_drop]
  | @again next rest failure calls e h he more ih =>
    cases before with
    | nil =>
      cases (List.cons.inj hc).1
      exact ⟨h, rest, rfl⟩
    | cons c before =>
      obtain ⟨rfl, htail⟩ := List.cons.inj hc
      simpa [Attempt.taken] using ih htail
  | @refused next rest h | @failed next rest e h he =>
    cases before with
    | nil =>
      cases (List.cons.inj hc).1
      exact ⟨h, rest, rfl⟩
    | cons c before => simp at hc

theorem isWrite (h : Writes text failure calls) : ∀ c ∈ calls, c.isWrite := by
  induction h <;> simp_all [Attempt.isWrite]

/-- the loop fails exactly if one of its writes is fatal -/
theorem eq_none_iff (h : Writes text failure calls) :
    failure = none ↔ ∀ c ∈ calls, c.isFatal = false := by
  induction h <;> simp_all [Attempt.isFatal]

/-- a fatal write is the last one -/
theorem eq_nil_of_isFatal (h : Writes text failure calls) {before after : List Attempt}
    {c : Attempt} (hc : calls = before ++ c :: after) (hf : c.isFatal) : after = [] := by
  induction h generalizing before with
  | done => simp at hc
  | part n h more ih =>
    cases before with
    | nil =>
      obtain ⟨rfl, -⟩ := by simpa using hc
      simp [Attempt.isFatal] at hf
    | cons d before => exact ih (List.cons.inj hc).2
  | again e h he more ih =>
    cases before with
    | nil =>
      obtain ⟨rfl, -⟩ := by simpa using hc
      simp [Attempt.isFatal, he] at hf
    | cons d before => exact ih (List.cons.inj hc).2
  | refused h | failed e h he =>
    cases before with
    | nil => exact (List.cons.inj hc).2.symm
    | cons d before => simp at hc

end Writes

namespace Console

/-- The calls of one piece, before those of what follows it. The recursion is the loop's own; the
calls of earlier rounds are only added to. -/
theorem writeAll_recorded (console : Console σ) (bs : Bytes) (s : σ) (before : List Attempt) :
    ∃ calls, console.recorded.writeAll bs (s, before) =
        ((console.writeAll bs s).1, (console.writeAll bs s).2, before ++ calls) ∧
      ((console.writeAll bs s).1 = none → ∀ rest failure more, Writes rest failure more →
        Writes (bs ++ rest) failure (calls ++ more)) ∧
      ∀ e, (console.writeAll bs s).1 = some e → ∀ rest, Writes (bs ++ rest) (some e) calls := by
  fun_induction console.writeAll bs s generalizing before with
  | case1 s => exact ⟨[], by simp, fun _ _ _ _ more => more, by simp⟩
  | case2 s b rest s' h =>
    have hw := recorded_write console before h
    refine ⟨_, writeAll_refused _ (by simp) hw, by simp, ?_⟩
    rintro _ ⟨⟩ _
    exact .refused (by simp)
  | case3 s b rest n s' h ih =>
    have hw := recorded_write console before h
    obtain ⟨calls, hrun, hnone, hsome⟩ := ih _
    refine ⟨.write (b :: rest) (.accepted (n + 1)) :: calls, ?_, ?_, ?_⟩
    · rw [writeAll_accepted _ (by simp) hw, List.drop_succ_cons, hrun, List.append_assoc]
      rfl
    · exact fun hn _ _ _ more => .part n (by simp) (hnone hn _ _ _ more)
    · exact fun e he _ => .part n (by simp) (hsome e he _)
  | case4 s b rest e s' h he _ ih =>
    have hw := recorded_write console before h
    obtain ⟨calls, hrun, hnone, hsome⟩ := ih _
    refine ⟨.write (b :: rest) (.failed e) :: calls, ?_, ?_, ?_⟩
    · rw [writeAll_interrupted _ (by simp) hw he, hrun, List.append_assoc]
      rfl
    · exact fun hn _ _ _ more => .again e (by simp) he (hnone hn _ _ _ more)
    · exact fun e' he' _ => .again e (by simp) he (hsome e' he' _)
  | case5 s b rest e s' h he =>
    have hw := recorded_write console before h
    have he : e.isInterrupted = false := by simpa using he
    refine ⟨_, writeAll_failed _ (by simp) hw he, by simp, ?_⟩
    rintro _ ⟨⟩ _
    exact .failed e (by simp) he

/-- the calls of pieces written one after another are writes of one text -/
theorem writePieces_recorded (console : Console σ) (pieces : List Bytes) (s : σ)
    (before : List Attempt) :
    ∃ calls, console.recorded.writePieces pieces (s, before) =
        ((console.writePieces pieces s).1, (console.writePieces pieces s).2, before ++ calls) ∧
      Writes pieces.flatten (console.writePieces pieces s).1 calls := by
  induction pieces generalizing s before with
  | nil => exact ⟨[], by simp [writePieces], .done⟩
  | cons piece pieces ih =>
    obtain ⟨calls, hrun, hnone, hsome⟩ := console.writeAll_recorded piece s before
    rcases hpiece : console.writeAll piece s with ⟨_ | e, s'⟩
    · rw [hpiece] at hrun hnone
      obtain ⟨more, hmore, hwrites⟩ := ih s' (before ++ calls)
      refine ⟨calls ++ more, ?_, ?_⟩
      · simp only [writePieces, hrun, hpiece, hmore, List.append_assoc]
      · simpa [writePieces, hpiece] using hnone rfl _ _ _ hwrites
    · rw [hpiece] at hrun hsome
      refine ⟨calls, ?_, ?_⟩
      · simp only [writePieces, hrun, hpiece]
      · simpa [writePieces, hpiece] using hsome e rfl pieces.flatten

end Console
end JarLauncher
