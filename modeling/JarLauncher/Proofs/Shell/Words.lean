import JarLauncher.Proofs.Shell.Octets
import JarLauncher.Shell.Reader.Token

/-! Reading words without quotes and expansions. Such a word is read octet for octet, but for the
backslashes in it: each is dropped, and the octet after it stands for itself. -/

namespace JarLauncher.Shell.Read

open Source (amid)

/-- an octet that neither ends a word nor opens quotes or an expansion -/
def isWordOctet (b : UInt8) : Bool := !(" \t\n|&;<>()\"'`$".toList.contains (chr b))

/-- an unquoted octet as a part; the shell guards those that it marks its own text with -/
def partOf (b : UInt8) : Part := if Mode.isMark b then .escaped b else .octet b

/-- the parts of unquoted text: a backslash guards the octet after it -/
def partsOf : Bytes → Word
  | [] => []
  | 92 :: b :: rest => .escaped b :: partsOf rest
  | b :: rest => partOf b :: partsOf rest

/-- Text that is one word: it is not empty, holds no octet with another meaning, does not open a
comment, and no backslash is left open at its end. -/
structure IsWord (bs : Bytes) : Prop where
  ne_nil : bs ≠ []
  octets : ∀ b ∈ bs, isWordOctet b
  head : bs.head? ≠ some 35
  last : bs.getLast? ≠ some 92

theorem role_plain : ∀ {b : UInt8}, isWordOctet b → b ≠ 92 →
    (Mode.plain.role (some b) = .guarded ∧ Mode.isMark b) ∨
      ((Mode.plain.role (some b) = .endOfParam ∨ Mode.plain.role (some b) = .literal) ∧
        Mode.isMark b = false) :=
  @(forall_octet (by decide +kernel))

theorem ne_newline {b : UInt8} (h : isWordOctet b) : b ≠ newline := by
  rintro rfl
  exact absurd h (by decide)

theorem blank_wordOctet {b : UInt8} (h : isWordOctet b) : isBlank b = false := by
  rw [isBlank, Bool.or_eq_false_iff, beq_eq_false_iff_ne, beq_eq_false_iff_ne]
  constructor
  all_goals
    rintro rfl
    exact absurd h (by decide)

/-- a word while it is read, with nothing open -/
def unquoted (parts : List Part) (isQuoted : Bool) : Draft :=
  { Draft.start (Level.start .plain) with parts := parts, isQuoted := isQuoted }

theorem start_plain : Draft.start (Level.start .plain) = unquoted [] false := rfl

theorem finished_unquoted (parts : List Part) (q : Bool) :
    finished (unquoted parts q) false = pure parts.reverse := rfl

variable {f : Known}

section Parts

variable (commands : Read (Option Command)) (token : Read Token) (parts : List Part) (q : Bool)
  (fuel : Nat)

theorem partsFrom_octet {b : UInt8} (hw : isWordOctet b) (hb : b ≠ 92) :
    partsFrom commands token none (fuel + 1) (unquoted parts q) (some b) =
      joined >>= partsFrom commands token none fuel (unquoted (partOf b :: parts) q) := by
  have hl : (unquoted parts q).level = Level.start .plain := rfl
  rw [partsFrom]
  rcases role_plain hw hb with ⟨hr, hm⟩ | ⟨hr | hr, hm⟩
  all_goals
    simp only [hl, Level.start, hr]
    simp [partOf, hm, unquoted, Draft.start, Level.start, Draft.push, Draft.endOfParam, nextIn]

theorem partsFrom_backslash (b : UInt8) (bs : Bytes) :
    partsFrom commands token none (fuel + 1) (unquoted parts q) (some 92)
        (amid (b :: bs) f) =
      (joined >>= partsFrom commands token none fuel (unquoted (.escaped b :: parts) true))
        (amid bs f) := by
  have hl : (unquoted parts q).level = Level.start .plain := rfl
  have hr : Mode.plain.role (some 92) = .backslash := by decide
  rw [partsFrom]
  simp only [hl, Level.start, hr]
  rw [bind_ok (next_cons b bs)]
  rfl

theorem partsFrom_end {c : Option UInt8} (hc : c = none ∨ c = some 32) :
    partsFrom commands token none (fuel + 1) (unquoted parts q) c = pure (unquoted parts q, c) := by
  have hl : (unquoted parts q).level = Level.start .plain := rfl
  rw [partsFrom]
  rcases hc with rfl | rfl
  · rfl
  · have hr : Mode.plain.role (some 32) = .ending := by decide
    simp only [hl, Level.start, hr]
    simp [unquoted, Draft.start, Level.start]

end Parts

/-- what follows a word on its line: nothing, or more words -/
def Follows (bs : Bytes) : Prop := bs.head? = none ∨ bs.head? = some 32

theorem joined_follows {bs : Bytes} (h : Follows bs) :
    joined (amid bs f) = .ok bs.head? (amid bs.tail f) := by
  cases bs with
  | nil => exact joined_nil
  | cons b bs =>
    have hb : b ≠ 92 := by rintro rfl; simp [Follows] at h
    exact joined_cons hb bs

theorem last_of_cons {b : UInt8} {bs : Bytes} (h : (b :: bs).getLast? ≠ some 92) :
    bs.getLast? ≠ some 92 := by
  cases bs with
  | nil => simp
  | cons c bs => simpa using h

/-- a backslash has an octet after it unless it is the last one -/
theorem ne_backslash {b : UInt8} {bs : Bytes} (hne : ∀ c rest, b = 92 → bs = c :: rest → False)
    (h : (b :: bs).getLast? ≠ some 92) : b ≠ 92 := by
  rintro rfl
  cases bs with
  | nil => simp at h
  | cons c bs => exact hne c bs rfl rfl

/-- The parts of a word are read one after another, each backslash with the octet after it. -/
theorem partsFrom_word (commands : Read (Option Command)) (token : Read Token) {bs rest : Bytes}
    (hbs : ∀ b ∈ bs, isWordOctet b) (hlast : bs.getLast? ≠ some 92) (hrest : Follows rest)
    {fuel : Nat} (hf : bs.length < fuel) (parts : List Part) (q : Bool) :
    (joined >>= partsFrom commands token none fuel (unquoted parts q))
        (amid (bs ++ rest) f) =
      .ok (unquoted ((partsOf bs).reverse ++ parts) (q || bs.contains 92), rest.head?)
        (amid rest.tail f) := by
  obtain ⟨fuel, rfl⟩ : ∃ n, fuel = n + 1 := ⟨fuel - 1, by omega⟩
  induction bs using partsOf.induct generalizing fuel parts q with
  | case1 =>
    rw [List.nil_append, bind_ok (joined_follows hrest), partsFrom_end _ _ _ _ _ hrest,
      List.contains_nil, Bool.or_false]
    rfl
  | case2 b bs ih =>
    simp only [List.mem_cons, forall_eq_or_imp] at hbs
    obtain ⟨-, hb, hbs⟩ := hbs
    obtain ⟨fuel, rfl⟩ : ∃ n, fuel = n + 1 := ⟨fuel - 1, by simp at hf; omega⟩
    have hlen : bs.length < fuel + 1 := by simp at hf; omega
    rw [List.cons_append, List.cons_append, bind_ok (joined_backslash (ne_newline hb) _),
      partsFrom_backslash, ih hbs (last_of_cons (last_of_cons hlast)) _ _ _ hlen]
    simp [partsOf]
  | case3 b bs hne ih =>
    have hb : b ≠ 92 := ne_backslash hne hlast
    simp only [List.mem_cons, forall_eq_or_imp] at hbs
    obtain ⟨hw, hbs⟩ := hbs
    obtain ⟨fuel, rfl⟩ : ∃ n, fuel = n + 1 := ⟨fuel - 1, by simp at hf; omega⟩
    rw [List.cons_append, bind_ok (joined_cons hb _), partsFrom_octet _ _ _ _ _ hw hb,
      ih hbs (last_of_cons hlast) _ _ _ (by simpa using hf)]
    simp [partsOf, hb.symm]

/-- the first octet of a word -/
theorem joined_word {b : UInt8} {bs : Bytes} (h : IsWord (b :: bs)) (rest : Bytes) :
    joined (amid (b :: (bs ++ rest)) f) = .ok (some b) (amid (bs ++ rest) f) := by
  by_cases hb : b = 92
  · subst hb
    cases bs with
    | nil => exact absurd rfl h.last
    | cons c bs => exact joined_backslash (ne_newline (h.octets c (by simp))) _
  · exact joined_cons hb _

theorem wordFrom_word (commands : Read (Option Command)) (token : Read Token) {b : UInt8}
    {bs rest : Bytes} (h : IsWord (b :: bs)) (hrest : Follows rest) :
    wordFrom commands token (some b) (amid (bs ++ rest) f) =
      .ok .word (amid rest { f with
        word := partsOf (b :: bs), isQuoted := (b :: bs).contains 92 }) := by
  have hf : (b :: bs).length < patience + (bs ++ rest).length := by
    rw [patience_eq, List.length_cons, List.length_append]
    omega
  have hparts := partsFrom_word (f := f) commands token h.octets h.last hrest hf [] false
  rw [List.cons_append, bind_ok (joined_word h rest)] at hparts
  rw [wordFrom, bind_ok (rounds_amid _), start_plain, bind_ok hparts]
  simp only [finished_unquoted, List.append_nil, List.reverse_reverse, pure_bind, Bool.false_or]
  cases rest with
  | nil => rfl
  | cons c rest =>
    obtain rfl : c = 32 := by simpa [Follows] using hrest
    rfl

theorem tokenStart_word {b : UInt8} {bs : Bytes} (h : IsWord (b :: bs)) (rest : Bytes)
    (fuel : Nat) :
    tokenStart (fuel + 1) (amid (b :: (bs ++ rest)) f) = .ok (some b) (amid (bs ++ rest) f) := by
  have hblank : isBlank b = false := blank_wordOctet (h.octets b (by simp))
  have hsharp : b ≠ 35 := by rintro rfl; exact h.head rfl
  rw [tokenStart, bind_ok (joined_word h rest), if_neg (by simp [hblank]),
    if_neg (by simp [hsharp])]
  rfl

theorem tokenStart_blank (bs : Bytes) (fuel : Nat) :
    tokenStart (fuel + 1) (amid (32 :: bs) f) = tokenStart fuel (amid bs f) := by
  rw [tokenStart, bind_ok (joined_cons (by decide) bs)]
  rfl

theorem tokenStart_nil (fuel : Nat) :
    tokenStart (fuel + 1) (amid [] f) = .ok none (amid [] f) := by
  rw [tokenStart, bind_ok joined_nil]
  rfl

section Signs

variable (commands : Read (Option Command)) (token : Read Token)

/-- what opens with an octet of a word is one -/
theorem sign_octet {s s' : Source} {b : UInt8} (hs : s.isHeld = false)
    (hstart : tokenStart patience s = .ok (some b) s') (hb : isWordOctet b) :
    sign commands token s =
      (wordFrom commands token (some b) >>= fun t =>
        modify (fun s => { s with last := t }) >>= fun _ => pure t) s' := by
  simp only [isWordOctet, Bool.not_eq_true', List.contains_eq_mem] at hb
  rw [sign, get_bind, if_neg (by simp [hs]), bind_ok hstart]
  refine congrFun ?_ s'
  split
  case h_8 => rfl
  all_goals simp_all

/-- a word, with a blank before it or without one -/
theorem sign_word {w rest text : Bytes} (h : IsWord w) (hrest : Follows rest)
    (hf : f.isHeld = false) (ht : text = w ++ rest ∨ text = 32 :: (w ++ rest)) :
    sign commands token (amid text f) =
      .ok .word (amid rest { f with
        last := .word, word := partsOf w, isQuoted := w.contains 92 }) := by
  obtain ⟨b, bs, rfl⟩ := List.exists_cons_of_ne_nil h.ne_nil
  have hstart : tokenStart patience (amid text f) = .ok (some b) (amid (bs ++ rest) f) := by
    rw [patience_eq]
    rcases ht with rfl | rfl
    · exact tokenStart_word h rest _
    · rw [tokenStart_blank]
      exact tokenStart_word h rest _
  rw [sign_octet commands token (by simp [hf]) hstart (h.octets b (by simp)),
    bind_ok (wordFrom_word commands token h hrest)]
  rfl

theorem sign_nil (hf : f.isHeld = false) :
    sign commands token (amid [] f) = .ok .endOfText (amid [] { f with last := .endOfText }) := by
  rw [sign, get_bind, if_neg (by simp [hf]), patience_eq, bind_ok (tokenStart_nil _)]
  rfl

/-- a token that was held comes again -/
theorem sign_held (text : Bytes) (hf : f.isHeld = true) :
    sign commands token (amid text f) = .ok f.last (amid text { f with isHeld := false }) := by
  rw [sign, get_bind, if_pos (by simp [hf])]
  rfl

end Signs

end JarLauncher.Shell.Read
