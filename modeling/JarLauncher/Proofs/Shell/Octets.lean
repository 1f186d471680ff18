import JarLauncher.Shell.Reader.Source

/-! Reading octets of a text that stands alone: no alias lies before it, and nothing can follow
it. -/

namespace JarLauncher.Shell

/-- what a reader knows besides the text: what it expects next, and what it found last -/
structure Known where
  expected : Expected := {}
  last : Token := .newline
  isHeld : Bool := false
  word : Word := []
  isQuoted : Bool := false

/-- a text that is read on its own, without aliases and documents, from its first line on -/
def Source.amid (rest : Bytes) (f : Known) : Source :=
  { Source.ofText rest true 1 with
    expected := f.expected
    last := f.last
    isHeld := f.isHeld
    word := f.word
    isQuoted := f.isQuoted }

namespace Source

variable (rest : Bytes) (f : Known)

@[simp] theorem amid_expected : (amid rest f).expected = f.expected := rfl
@[simp] theorem amid_isHeld : (amid rest f).isHeld = f.isHeld := rfl
@[simp] theorem amid_word : (amid rest f).word = f.word := rfl
@[simp] theorem amid_isQuoted : (amid rest f).isQuoted = f.isQuoted := rfl

end Source

namespace Read

open Source (amid)

variable {α β : Type} {f : Known}

/-- a step that succeeds is left behind -/
theorem bind_ok {x : Read α} {s s' : Source} {a : α} (h : x s = .ok a s') (f : α → Read β) :
    (x >>= f) s = f a s' := by
  simp only [bind, EStateM.bind, h]

theorem get_bind (g : Source → Read β) (s : Source) : (get >>= g) s = g s s := rfl

theorem next_cons (b : UInt8) (bs : Bytes) :
    next (amid (b :: bs) f) = .ok (some b) (amid bs f) := by
  simp [next, nextFrom, amid, Source.ofText]

theorem next_nil :
    next (amid [] f) = .ok none (amid [] f) := by
  simp [next, nextFrom, amid, Source.ofText]

theorem unread_some (b : UInt8) (bs : Bytes) :
    unread (some b) (amid bs f) = .ok () (amid (b :: bs) f) := rfl

theorem expect_amid (e : Expected) (bs : Bytes) :
    expect e (amid bs f) = .ok () (amid bs { f with expected := e }) := rfl

theorem hold_amid (bs : Bytes) :
    hold (amid bs f) = .ok () (amid bs { f with isHeld := true }) := rfl

theorem rounds_amid (bs : Bytes) :
    rounds (amid bs f) = .ok (patience + bs.length) (amid bs f) := rfl

/-- A loop has more rounds than any that is gone through once, or a few times. -/
theorem patience_eq : patience = (patience - 16) + 16 := rfl

theorem joined_cons {b : UInt8} (h : b ≠ 92) (bs : Bytes) :
    joined (amid (b :: bs) f) = .ok (some b) (amid bs f) := by
  rw [joined, patience_eq, nextJoined, bind_ok (next_cons b bs), if_pos (by simpa using h)]
  rfl

/-- a backslash joins lines only in front of a newline -/
theorem joined_backslash {b : UInt8} (h : b ≠ newline) (bs : Bytes) :
    joined (amid (92 :: b :: bs) f) = .ok (some 92) (amid (b :: bs) f) := by
  rw [joined, patience_eq, nextJoined, bind_ok (next_cons _ _), if_neg (by simp),
    bind_ok (next_cons b bs), if_neg (by simpa using h), bind_ok (unread_some b bs)]
  rfl

theorem joined_nil :
    joined (amid [] f) = .ok none (amid [] f) := by
  rw [joined, patience_eq, nextJoined, bind_ok next_nil, if_pos (by simp)]
  rfl

/-- what is true of each of the 256 octets -/
theorem forall_octet {P : UInt8 → Prop} (h : ∀ n : Fin 256, P (UInt8.ofFin n)) (b : UInt8) : P b :=
  h b.toFin

end Read
end JarLauncher.Shell
