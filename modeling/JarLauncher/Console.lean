import JarLauncher.Utf8
import JarLauncher.Error

/-! A console takes octets piece by piece and may take only part of what it is offered. `writeAll`
offers the rest again until all is taken, tries again after an interruption, and stops at the first
failure; a write that takes nothing is a failure. -/

namespace JarLauncher

inductive Written where
  /-- the first `count` octets of the offer were taken -/
  | accepted (count : Nat)
  | failed (cause : IoError)
  deriving DecidableEq

/-- the write of some octets is interrupted in the state `s` and leaves `s'` -/
def Interrupts {σ : Type} (write : Bytes → σ → Written × σ) (s' s : σ) : Prop :=
  ∃ bs e, write bs s = (.failed e, s') ∧ e.isInterrupted

/-- A console on a state `σ`. It does not interrupt for ever. -/
structure Console (σ : Type) where
  write : Bytes → σ → Written × σ
  flush : σ → Option IoError × σ
  patient : WellFounded (Interrupts write)

namespace Console

variable {σ : Type}

/-- writes that are never interrupted -/
theorem patient_of_never {write : Bytes → σ → Written × σ}
    (h : ∀ bs s e, (write bs s).1 = .failed e → e.isInterrupted = false) :
    WellFounded (Interrupts write) := by
  refine ⟨fun s => ⟨s, fun s' hs => ?_⟩⟩
  obtain ⟨bs, e, hw, he⟩ := hs
  simp [h bs s e (by rw [hw])] at he

/-- writes on a part of the state that is patient alone -/
theorem patient_of_part {τ : Type} {inner : Bytes → σ → Written × σ}
    {write : Bytes → τ → Written × τ} (part : τ → σ) (hi : WellFounded (Interrupts inner))
    (h : ∀ bs s, inner bs (part s) = ((write bs s).1, part (write bs s).2)) :
    WellFounded (Interrupts write) := by
  refine Subrelation.wf ?_ (InvImage.wf part hi)
  rintro s' s ⟨bs, e, hw, he⟩
  exact ⟨bs, e, by rw [h, hw], he⟩

/-- the failure of a console that takes nothing more -/
def refusal : IoError := .custom .writeZero "failed to write whole buffer"

/-- a state, ordered by the interruptions that lead from it -/
def Waiting (_ : Console σ) : Type := σ

instance (console : Console σ) : WellFoundedRelation console.Waiting := ⟨_, console.patient⟩

def writeAll (console : Console σ) (bs : Bytes) (s : σ) : Option IoError × σ :=
  match bs with
  | [] => (none, s)
  | b :: rest =>
    match h : console.write (b :: rest) s with
    | (.accepted 0, s') => (some refusal, s')
    | (.accepted (n + 1), s') => writeAll console (rest.drop n) s'
    | (.failed e, s') =>
      if he : e.isInterrupted then
        have : Interrupts console.write s' s := ⟨b :: rest, e, h, he⟩
        writeAll console (b :: rest) s'
      else (some e, s')
termination_by (bs.length, (show console.Waiting from s))
decreasing_by
  · exact Prod.Lex.left _ _ (by rw [List.length_drop, List.length_cons]; omega)
  · exact Prod.Lex.right _ this

section

variable (console : Console σ) {bs : Bytes} {s s' : σ}

@[simp] theorem writeAll_nil (s : σ) : console.writeAll [] s = (none, s) := by simp [writeAll]

theorem writeAll_refused (h : bs ≠ []) (hw : console.write bs s = (.accepted 0, s')) :
    console.writeAll bs s = (some refusal, s') := by
  cases bs with
  | nil => exact absurd rfl h
  | cons b rest => rw [writeAll]; split <;> simp_all

theorem writeAll_accepted {n : Nat} (h : bs ≠ [])
    (hw : console.write bs s = (.accepted (n + 1), s')) :
    console.writeAll bs s = console.writeAll (bs.drop (n + 1)) s' := by
  cases bs with
  | nil => exact absurd rfl h
  | cons b rest => rw [writeAll]; split <;> simp_all

theorem writeAll_interrupted {e : IoError} (h : bs ≠ [])
    (hw : console.write bs s = (.failed e, s')) (he : e.isInterrupted) :
    console.writeAll bs s = console.writeAll bs s' := by
  cases bs with
  | nil => exact absurd rfl h
  | cons b rest => rw [writeAll]; split <;> simp_all

theorem writeAll_failed {e : IoError} (h : bs ≠ [])
    (hw : console.write bs s = (.failed e, s')) (he : e.isInterrupted = false) :
    console.writeAll bs s = (some e, s') := by
  cases bs with
  | nil => exact absurd rfl h
  | cons b rest => rw [writeAll]; split <;> simp_all

end

/-- the pieces one after another, up to the first failure -/
def writePieces (console : Console σ) : List Bytes → σ → Option IoError × σ
  | [], s => (none, s)
  | piece :: pieces, s =>
    match console.writeAll piece s with
    | (none, s') => console.writePieces pieces s'
    | (some e, s') => (some e, s')

/-- a console that takes everything into the state by `put` -/
def accepting (put : Bytes → σ → σ) : Console σ where
  write bs s := (.accepted bs.length, put bs s)
  flush s := (none, s)
  patient := patient_of_never fun _ _ _ h => nomatch h

/-- a console whose every call fails with `cause`, which is no interruption -/
def failing (cause : IoError) (h : cause.isInterrupted = false) : Console σ where
  write _ s := (.failed cause, s)
  flush s := (some cause, s)
  patient := patient_of_never fun _ _ _ he => by cases he; exact h

end Console
end JarLauncher
