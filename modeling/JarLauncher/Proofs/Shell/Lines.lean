import JarLauncher.Proofs.Shell.Words
import JarLauncher.Shell.Reader.Grammar

/-! Reading a line of words. Words with blanks between them are one simple command, and nothing
follows it. -/

namespace JarLauncher.Shell.Read

open Source (amid)

variable {f g : Known}

/-- a word that is no keyword as it stands -/
def NoKeyword (w : Word) : Prop := ∀ name, w.plain? = some name → Keyword.ofText? name = none

theorem passNewlines_of_ne (commands : Read (Option Command)) (token : Read Token) {t : Token}
    (ht : t ≠ .newline) : passNewlines commands token patience t = pure t := by
  rw [patience_eq, passNewlines, if_pos ht]

/-- no name stands for another text -/
theorem without_alias {aliases : Bool} {t : Token} {k : Option Bytes → Read Token}
    (hk : k none = pure t) (name text : Bytes) :
    (if aliases = true then alias? name >>= k else pure t) (amid text f) =
      .ok t (amid text f) := by
  cases aliases with
  | false => rfl
  | true =>
    have hnone : alias? name (amid text f) = .ok none (amid text f) := rfl
    rw [if_pos rfl, bind_ok hnone, hk]
    rfl

/-- A token that is no newline stays what it was read as, unless it is a word that is a keyword
where one is expected. -/
theorem tokenFrom_of_sign (commands : Read (Option Command)) {e : Expected} {text rest : Bytes}
    {t : Token} (hs : ∀ again, sign commands again (amid text f) = .ok t (amid rest g))
    (hn : t ≠ .newline) (hk : t = .word → (e.keywords || g.expected.keywords) → NoKeyword g.word)
    (fuel : Nat) :
    tokenFrom commands (fuel + 1) e (amid text f) =
      .ok t (amid rest { g with expected := {} }) := by
  rw [tokenFrom, bind_ok (hs _)]
  simp only [passNewlines_of_ne _ _ hn, pure_bind, ite_self]
  rw [get_bind, bind_ok (expect_amid _ _), get_bind]
  by_cases hw : t = .word
  · subst hw
    by_cases hq : g.isQuoted
    · rw [if_pos (by simp [hq])]
      rfl
    · rw [if_neg (by simp [hq])]
      cases hp : g.word.plain? with
      | none =>
        simp only [Source.amid_word, hp]
        rfl
      | some name =>
        simp only [Source.amid_word, Source.amid_expected, hp]
        by_cases hkw : e.keywords || g.expected.keywords
        · simp only [hk rfl hkw name hp]
          refine (congrFun (if_pos hkw) _).trans ?_
          apply without_alias
          rfl
        · refine (congrFun (if_neg hkw) _).trans ?_
          apply without_alias
          rfl
  · rw [if_pos (by simp [hw])]
    rfl

/-- what is known behind a word -/
def ofWord (w : Bytes) : Known :=
  { last := .word, word := partsOf w, isQuoted := w.contains 92 }

theorem token_word (commands : Read (Option Command)) {w rest text : Bytes} (h : IsWord w)
    (hrest : Follows rest) (hf : f.isHeld = false)
    (ht : text = w ++ rest ∨ text = 32 :: (w ++ rest))
    (hk : f.expected.keywords → NoKeyword (partsOf w)) :
    token commands (amid text f) = .ok .word (amid rest (ofWord w)) := by
  rw [token, get_bind, patience_eq]
  rw [tokenFrom_of_sign commands (fun again => sign_word commands again h hrest hf ht) (by simp)
    (fun _ hkw => hk (by simpa using hkw))]
  simp [ofWord, hf]

theorem token_nil (commands : Read (Option Command)) (hf : f.isHeld = false) :
    token commands (amid [] f) =
      .ok .endOfText (amid [] { f with last := .endOfText, expected := {} }) := by
  rw [token, get_bind, patience_eq]
  exact tokenFrom_of_sign commands (fun again => sign_nil commands again hf) (by simp) (by simp) _

theorem token_held (commands : Read (Option Command)) (text : Bytes) (hf : f.isHeld = true)
    (hn : f.last ≠ .newline) (hk : f.last = .word → f.expected.keywords → NoKeyword f.word) :
    token commands (amid text f) =
      .ok f.last (amid text { f with isHeld := false, expected := {} }) := by
  rw [token, get_bind, patience_eq]
  exact tokenFrom_of_sign commands (fun again => sign_held commands again text hf) hn
    (fun hw hkw => hk hw (by simpa using hkw)) _

/-- a word that was held comes again -/
theorem token_again (commands : Read (Option Command)) (w rest : Bytes) {e : Expected}
    (he : e.keywords = false) :
    token commands (amid rest { ofWord w with expected := e, isHeld := true }) =
      .ok .word (amid rest (ofWord w)) :=
  token_held commands rest rfl (by simp [ofWord]) (by simp [ofWord, he])

section Grammar

variable (fuel line : Nat)

theorem simple_word {w rest : Bytes} (h : IsWord w) (hrest : Follows rest) (hf : f.isHeld = false)
    (c : Simple) :
    simple (fuel + 1) line {} c (amid (32 :: (w ++ rest)) f) =
      simple fuel line {} { c with words := c.words ++ [partsOf w] } (amid rest (ofWord w)) := by
  rw [simple.eq_def (fuel + 1)]
  dsimp only
  rw [bind_ok (expect_amid _ _),
    bind_ok (token_word (f := { f with expected := {} }) _ h hrest hf (.inr rfl) (by simp))]
  rfl

theorem simple_nil (hf : f.isHeld = false) (c : Simple) :
    simple (fuel + 1) line {} c (amid [] f) =
      .ok (.simple line c.assigns c.words c.redirects)
        (amid [] { f with expected := {}, last := .endOfText, isHeld := true }) := by
  rw [simple.eq_def (fuel + 1)]
  dsimp only
  rw [bind_ok (expect_amid _ _), bind_ok (token_nil (f := { f with expected := {} }) _ hf)]
  rfl

/-- a first word that was held and sets no variable -/
theorem simple_held {w : Bytes} (hw : assignment? (partsOf w) = none) (rest : Bytes)
    (e : Expected) (c : Simple) :
    simple (fuel + 1) line { keywords := false, aliases := true } c
        (amid rest { ofWord w with expected := e, isHeld := true }) =
      simple fuel line {} { c with words := c.words ++ [partsOf w] } (amid rest (ofWord w)) := by
  rw [simple.eq_def (fuel + 1)]
  dsimp only
  rw [bind_ok (expect_amid _ _), bind_ok (token_again _ w rest rfl)]
  dsimp only
  rw [get_bind]
  simp [ofWord, hw]

/-- words, each with a blank before it -/
def spaced (ws : List Bytes) : Bytes := ws.flatMap (32 :: ·)

theorem follows_spaced (ws : List Bytes) : Follows (spaced ws) := by
  cases ws with
  | nil => exact .inl rfl
  | cons w ws => exact .inr rfl

/-- the end of a text was found, and comes again -/
def AtEnd (f : Known) : Prop := f.last = .endOfText ∧ f.isHeld = true

theorem simple_spaced {ws : List Bytes} (hws : ∀ w ∈ ws, IsWord w) (hf : f.isHeld = false)
    (c : Simple) :
    ∃ g, AtEnd g ∧ simple (fuel + ws.length + 1) line {} c (amid (spaced ws) f) =
      .ok (.simple line c.assigns (c.words ++ ws.map partsOf) c.redirects) (amid [] g) := by
  induction ws generalizing f c with
  | nil =>
    refine ⟨{ f with expected := {}, last := .endOfText, isHeld := true }, ⟨rfl, rfl⟩,
      (simple_nil _ line hf c).trans ?_⟩
    simp
  | cons w ws ih =>
    obtain ⟨hw, hws⟩ := List.forall_mem_cons.1 hws
    obtain ⟨g, hg, hs⟩ := ih hws (f := ofWord w) rfl { c with words := c.words ++ [partsOf w] }
    refine ⟨g, hg, ?_⟩
    have hstep := simple_word (fuel + ws.length + 1) line hw (follows_spaced ws) hf c
    refine hstep.trans (hs.trans ?_)
    simp

theorem token_atEnd (commands : Read (Option Command)) (hg : AtEnd g) :
    token commands (amid [] g) =
      .ok .endOfText (amid [] { g with isHeld := false, expected := {} }) := by
  rw [token_held commands [] hg.2 (by simp [hg.1]) (by simp [hg.1]), hg.1]

theorem hold_atEnd (hg : AtEnd g) :
    AtEnd { g with isHeld := true, expected := {} } := ⟨hg.1, rfl⟩

/-- a first word that was held opens a simple command -/
theorem command_held {w : Bytes} {ws : List Bytes} (hw : assignment? (partsOf w) = none)
    (hws : ∀ w ∈ ws, IsWord w) :
    ∃ g, AtEnd g ∧
      command (fuel + ws.length + 3) (amid (spaced ws) { ofWord w with isHeld := true }) =
        .ok (.simple 1 [] ((w :: ws).map partsOf) []) (amid [] g) := by
  obtain ⟨g, hg, hs⟩ := simple_spaced fuel 1 hws (f := ofWord w) rfl ⟨[], [partsOf w], []⟩
  refine ⟨g, hg, ?_⟩
  rw [command, get_bind, bind_ok (token_again _ w _ rfl)]
  dsimp only
  rw [bind_ok (hold_amid _)]
  exact (simple_held _ _ hw _ {} _).trans hs

theorem stagesFrom_atEnd (hg : AtEnd g) (done : List Command) :
    stagesFrom (fuel + 1) done (amid [] g) =
      .ok done.reverse (amid [] { g with isHeld := true, expected := {} }) := by
  rw [stagesFrom, bind_ok (token_atEnd _ hg), if_neg (by simp)]
  rfl

theorem pipeline_held {w : Bytes} {ws : List Bytes} (hw : assignment? (partsOf w) = none)
    (hws : ∀ w ∈ ws, IsWord w) :
    ∃ g, AtEnd g ∧
      pipeline (fuel + ws.length + 4) (amid (spaced ws) { ofWord w with isHeld := true }) =
        .ok (.simple 1 [] ((w :: ws).map partsOf) []) (amid [] g) := by
  obtain ⟨g, hg, hs⟩ := command_held fuel hw hws
  refine ⟨_, hold_atEnd hg, ?_⟩
  rw [pipeline, bind_ok (token_again _ w _ rfl)]
  dsimp only
  rw [if_neg (by simp), bind_ok (hold_amid _), bind_ok hs, bind_ok (stagesFrom_atEnd _ hg _)]
  rfl

theorem andOrFrom_atEnd (hg : AtEnd g) (c : Command) :
    andOrFrom (fuel + 1) c (amid [] g) =
      .ok c (amid [] { g with isHeld := true, expected := {} }) := by
  rw [andOrFrom, bind_ok (token_atEnd _ hg)]
  rfl

theorem andOr_held {w : Bytes} {ws : List Bytes} (hw : assignment? (partsOf w) = none)
    (hws : ∀ w ∈ ws, IsWord w) :
    ∃ g, AtEnd g ∧
      andOr (fuel + ws.length + 5) (amid (spaced ws) { ofWord w with isHeld := true }) =
        .ok (.simple 1 [] ((w :: ws).map partsOf) []) (amid [] g) := by
  obtain ⟨g, hg, hs⟩ := pipeline_held fuel hw hws
  refine ⟨_, hold_atEnd hg, ?_⟩
  rw [andOr, bind_ok hs]
  exact andOrFrom_atEnd _ hg _

theorem documents_amid (commands : Read (Option Command)) (token : Read Token) (text : Bytes) :
    documents commands token (amid text f) = .ok () (amid text f) := rfl

/-- what a line of commands opens with -/
abbrev atLine : Expected := { newlines := ListKind.line ≠ .line, keywords := true, aliases := true }

/-- at the end of a text a line holds what was read of it before -/
theorem list_end (htoken : token (list fuel .any none) (amid [] { f with expected := atLine }) =
      .ok .endOfText (amid [] g)) (before : Option Command) :
    list (fuel + 1) .line before (amid [] f) =
      .ok before (amid [] { g with last := .endOfText, isHeld := true }) := by
  rw [list, bind_ok (expect_amid atLine _), bind_ok htoken]
  dsimp only
  rw [bind_ok (documents_amid _ _ [])]
  rfl

/-- a line of words is one simple command -/
theorem list_words {w : Bytes} {ws : List Bytes} (hw : IsWord w) (hk : NoKeyword (partsOf w))
    (ha : assignment? (partsOf w) = none) (hws : ∀ w ∈ ws, IsWord w) (hf : f.isHeld = false) :
    ∃ g, AtEnd g ∧ list (fuel + ws.length + 6) .line none (amid (w ++ spaced ws) f) =
      .ok (some (.simple 1 [] ((w :: ws).map partsOf) [])) (amid [] g) := by
  obtain ⟨g, hg, hs⟩ := andOr_held fuel ha hws
  refine ⟨{ g with expected := {}, last := .endOfText, isHeld := true }, ⟨rfl, rfl⟩, ?_⟩
  have htoken := token_word (f := { f with expected := atLine })
    (list (fuel + ws.length + 5) .any none) hw (follows_spaced ws) hf (.inl rfl) fun _ => hk
  rw [list, bind_ok (expect_amid atLine _), bind_ok htoken]
  dsimp only
  rw [bind_ok (hold_amid _), if_neg (by simp [Token.endsList]), bind_ok hs,
    bind_ok (token_atEnd _ hg)]
  dsimp only
  rw [bind_ok (hold_amid _)]
  exact list_end (f := { g with expected := {}, isHeld := true }) _
    (token_atEnd (g := { g with expected := atLine, isHeld := true }) _ ⟨hg.1, rfl⟩) _

end Grammar

/-- a text that is one simple command of these words, without assignments and redirections, and
nothing else -/
def IsCommand (text : Bytes) (words : List Word) : Prop :=
  ∃ s s', Read.line (Source.ofText text true 1) = .ok (some (some (.simple 1 [] words []))) s ∧
    Read.line s = .ok none s'

/-- what a line that is read is known as -/
theorem line_of_list {text rest : Bytes} {c : Option Command}
    (hl : list patience .line none (amid text { f with expected := {}, isHeld := false }) =
      .ok c (amid rest g)) :
    Read.line (amid text f) =
      .ok (if c.isNone ∧ g.isHeld then none else some c) (amid rest g) := by
  have hstart : (modify fun s => { s with isHeld := false, expected := {}, announced := [] } :
      Read Unit) (amid text f) = .ok () (amid text { f with expected := {}, isHeld := false }) := rfl
  rw [Read.line, bind_ok hstart, bind_ok hl, get_bind]
  by_cases hc : c.isNone ∧ g.isHeld
  · rw [if_pos hc]
    exact congrFun (if_pos hc) _
  · rw [if_neg hc]
    exact congrFun (if_neg hc) _

theorem line_nil (f : Known) : ∃ s, Read.line (amid [] f) = .ok none s := by
  have htoken := token_nil (list (patience - 1) .any none)
    (f := { f with expected := atLine, isHeld := false }) rfl
  have hl := list_end (f := { f with expected := {}, isHeld := false }) (patience - 1) htoken none
  exact ⟨_, line_of_list hl⟩

theorem isCommand_words {w : Bytes} {ws : List Bytes} (hw : IsWord w) (hk : NoKeyword (partsOf w))
    (ha : assignment? (partsOf w) = none) (hws : ∀ w ∈ ws, IsWord w)
    (hlen : ws.length + 6 ≤ patience) :
    IsCommand (w ++ spaced ws) ((w :: ws).map partsOf) := by
  obtain ⟨n, hn⟩ : ∃ n, patience = n + ws.length + 6 := ⟨patience - (ws.length + 6), by omega⟩
  obtain ⟨g, hg, hl⟩ := list_words n hw hk ha hws (f := {}) rfl
  rw [← hn] at hl
  obtain ⟨s, hs⟩ := line_nil g
  refine ⟨_, s, ?_, hs⟩
  exact line_of_list (f := {}) hl

/-- a text is one command at most -/
theorem IsCommand.unique {text : Bytes} {words words' : List Word} (h : IsCommand text words)
    (h' : IsCommand text words') : words = words' := by
  obtain ⟨s, -, hs, -⟩ := h
  obtain ⟨s', -, hs', -⟩ := h'
  have heq := hs.symm.trans hs'
  simp only [EStateM.Result.ok.injEq, Option.some.injEq, Command.simple.injEq, true_and, and_true]
    at heq
  exact heq.1

end JarLauncher.Shell.Read
