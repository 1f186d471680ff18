import JarLauncher.Utf8

/-! The encodings of characters. `Encodes` lists them by their length, apart from the ranges that
the segments are cut by; both are the same, and each encoding gives back the character it was made
from. -/

namespace JarLauncher.Utf8

/-- an octet that continues an encoding -/
def Continues (b : UInt8) : Prop := 0x80 ≤ b.toNat ∧ b.toNat ≤ 0xBF

/-- `lead` and the octets `tail` behind it encode a character -/
inductive Encodes : (lead : UInt8) → (tail : Bytes) → Prop
  | one {a} (ha : a.toNat < 0x80) : Encodes a []
  | two {a b} (ha : 0xC2 ≤ a.toNat ∧ a.toNat ≤ 0xDF) (hb : Continues b) : Encodes a [b]
  | three {a b c} (ha : 0xE0 ≤ a.toNat ∧ a.toNat ≤ 0xEF) (hb : Continues b) (hc : Continues c)
      (hlow : a.toNat = 0xE0 → 0xA0 ≤ b.toNat) (hhigh : a.toNat = 0xED → b.toNat ≤ 0x9F) :
      Encodes a [b, c]
  | four {a b c d} (ha : 0xF0 ≤ a.toNat ∧ a.toNat ≤ 0xF4) (hb : Continues b) (hc : Continues c)
      (hd : Continues d) (hlow : a.toNat = 0xF0 → 0x90 ≤ b.toNat)
      (hhigh : a.toNat = 0xF4 → b.toNat ≤ 0x8F) : Encodes a [b, c, d]

theorem Encodes.not_continues {lead : UInt8} {tail : Bytes} (h : Encodes lead tail) :
    ¬ Continues lead := by
  unfold Continues
  cases h <;> omega

/-- one octet in each of the ranges -/
def Fills : List (UInt8 × UInt8) → Bytes → Prop
  | [], [] => True
  | (lo, hi) :: ranges, b :: bs => (lo ≤ b ∧ b ≤ hi) ∧ Fills ranges bs
  | _, _ => False

theorem fills_nil {bs : Bytes} : Fills [] bs ↔ bs = [] := by
  cases bs <;> simp [Fills]

theorem fills_cons {lo hi : UInt8} {ranges : List (UInt8 × UInt8)} {bs : Bytes} :
    Fills ((lo, hi) :: ranges) bs ↔
      ∃ b rest, bs = b :: rest ∧ (lo.toNat ≤ b.toNat ∧ b.toNat ≤ hi.toNat) ∧ Fills ranges rest := by
  cases bs with
  | nil => simp [Fills]
  | cons b rest => simp [Fills, UInt8.le_iff_toNat_le, and_assoc]

/-- what may follow a lead octet, by where it lies -/
theorem tails_cases (a : UInt8) :
    ((a.toNat < 0xC2 ∨ 0xF5 ≤ a.toNat) ∧ tails a = []) ∨
    ((0xC2 ≤ a.toNat ∧ a.toNat ≤ 0xDF) ∧ tails a = [(0x80, 0xBF)]) ∨
    (a.toNat = 0xE0 ∧ tails a = [(0xA0, 0xBF), (0x80, 0xBF)]) ∨
    (a.toNat = 0xED ∧ tails a = [(0x80, 0x9F), (0x80, 0xBF)]) ∨
    ((0xE1 ≤ a.toNat ∧ a.toNat ≤ 0xEF ∧ a.toNat ≠ 0xED) ∧
      tails a = [(0x80, 0xBF), (0x80, 0xBF)]) ∨
    (a.toNat = 0xF0 ∧ tails a = [(0x90, 0xBF), (0x80, 0xBF), (0x80, 0xBF)]) ∨
    ((0xF1 ≤ a.toNat ∧ a.toNat ≤ 0xF3) ∧ tails a = [(0x80, 0xBF), (0x80, 0xBF), (0x80, 0xBF)]) ∨
    (a.toNat = 0xF4 ∧ tails a = [(0x80, 0x8F), (0x80, 0xBF), (0x80, 0xBF)]) := by
  unfold tails
  simp only [UInt8.lt_iff_toNat_lt, ← UInt8.toNat_inj, UInt8.reduceToNat]
  split
  · exact Or.inl ⟨Or.inl ‹_›, rfl⟩
  split
  · exact Or.inr (Or.inl ⟨by omega, rfl⟩)
  split
  · exact Or.inr (Or.inr (Or.inl ⟨‹_›, rfl⟩))
  split
  · exact Or.inr (Or.inr (Or.inr (Or.inl ⟨‹_›, rfl⟩)))
  split
  · exact Or.inr (Or.inr (Or.inr (Or.inr (Or.inl ⟨by omega, rfl⟩))))
  split
  · exact Or.inr (Or.inr (Or.inr (Or.inr (Or.inr (Or.inl ⟨‹_›, rfl⟩)))))
  split
  · exact Or.inr (Or.inr (Or.inr (Or.inr (Or.inr (Or.inr (Or.inl ⟨by omega, rfl⟩))))))
  split
  · exact Or.inr (Or.inr (Or.inr (Or.inr (Or.inr (Or.inr (Or.inr ⟨‹_›, rfl⟩))))))
  · exact Or.inl ⟨Or.inr (by omega), rfl⟩

/-- the ranges and the list of encodings agree -/
theorem encodes_iff {lead : UInt8} {tail : Bytes} :
    Encodes lead tail ↔ (lead.toNat < 0x80 ∨ tails lead ≠ []) ∧ Fills (tails lead) tail := by
  constructor
  · intro h
    rcases tails_cases lead with ⟨ha, ht⟩ | ⟨ha, ht⟩ | ⟨ha, ht⟩ | ⟨ha, ht⟩ | ⟨ha, ht⟩ | ⟨ha, ht⟩ |
      ⟨ha, ht⟩ | ⟨ha, ht⟩ <;> rw [ht] <;> cases h <;>
      simp_all [Fills, Continues, UInt8.le_iff_toNat_le] <;> omega
  · rintro ⟨hl, hf⟩
    rcases tails_cases lead with ⟨ha, ht⟩ | ⟨ha, ht⟩ | ⟨ha, ht⟩ | ⟨ha, ht⟩ | ⟨ha, ht⟩ | ⟨ha, ht⟩ |
      ⟨ha, ht⟩ | ⟨ha, ht⟩ <;> rw [ht] at hl hf <;>
      simp only [fills_cons, fills_nil, UInt8.reduceToNat] at hf
    · subst hf
      exact .one (by simpa using hl)
    · obtain ⟨b, _, rfl, hb, rfl⟩ := hf
      exact .two ha hb
    · obtain ⟨b, _, rfl, hb, c, _, rfl, hc, rfl⟩ := hf
      exact .three (by omega) ⟨by omega, hb.2⟩ hc (fun _ => hb.1) (by omega)
    · obtain ⟨b, _, rfl, hb, c, _, rfl, hc, rfl⟩ := hf
      exact .three (by omega) ⟨hb.1, by omega⟩ hc (by omega) (fun _ => hb.2)
    · obtain ⟨b, _, rfl, hb, c, _, rfl, hc, rfl⟩ := hf
      exact .three (by omega) hb hc (by omega) (by omega)
    · obtain ⟨b, _, rfl, hb, c, _, rfl, hc, d, _, rfl, hd, rfl⟩ := hf
      exact .four (by omega) ⟨by omega, hb.2⟩ hc hd (fun _ => hb.1) (by omega)
    · obtain ⟨b, _, rfl, hb, c, _, rfl, hc, d, _, rfl, hd, rfl⟩ := hf
      exact .four (by omega) hb hc hd (by omega) (by omega)
    · obtain ⟨b, _, rfl, hb, c, _, rfl, hc, d, _, rfl, hd, rfl⟩ := hf
      exact .four (by omega) ⟨hb.1, by omega⟩ hc hd (by omega) (fun _ => hb.2)

/-- whatever follows a lead octet continues an encoding -/
theorem tails_continue {lead b : UInt8} {range : UInt8 × UInt8} (h : range ∈ tails lead)
    (hb : range.1 ≤ b ∧ b ≤ range.2) : Continues b := by
  rw [UInt8.le_iff_toNat_le, UInt8.le_iff_toNat_le] at hb
  unfold Continues
  rcases tails_cases lead with ⟨-, ht⟩ | ⟨-, ht⟩ | ⟨-, ht⟩ | ⟨-, ht⟩ | ⟨-, ht⟩ | ⟨-, ht⟩ | ⟨-, ht⟩ |
    ⟨-, ht⟩ <;> rw [ht] at h <;> simp at h
  case inr.inl => subst h; exact hb
  all_goals rcases h with rfl | rfl <;> simp only [UInt8.reduceToNat] at hb <;> omega

theorem isValidChar_codePoint {lead : UInt8} {tail : Bytes} (h : Encodes lead tail) :
    (codePoint lead tail).isValidChar := by
  cases h <;> simp_all [codePoint, leadBound, Continues, Nat.isValidChar] <;> omega

/-- the character of an encoding is encoded so -/
theorem encodeChar_codePoint {lead : UInt8} {tail : Bytes} (h : Encodes lead tail) :
    encodeChar (Char.ofNat (codePoint lead tail)) = lead :: tail := by
  have hv : (Char.ofNat (codePoint lead tail)).val.toNat = codePoint lead tail := by
    rw [Char.ofNat, dif_pos (isValidChar_codePoint h)]
    rfl
  rw [encodeChar, String.utf8EncodeChar, hv]
  cases h with
  | one ha =>
    simp only [codePoint, leadBound, List.length_nil, List.foldl_nil]
    rw [if_pos (by omega)]
    simp only [List.cons.injEq, and_true, ← UInt8.toNat_inj, UInt8.toNat_ofNat']
    omega
  | two ha hb =>
    simp only [codePoint, leadBound, List.length_cons, List.length_nil, List.foldl_cons,
      List.foldl_nil, Continues] at hb ⊢
    rw [if_neg (by omega), if_pos (by omega)]
    simp only [List.cons.injEq, and_true, ← UInt8.toNat_inj, UInt8.toNat_ofNat']
    omega
  | three ha hb hc hlow hhigh =>
    simp only [codePoint, leadBound, List.length_cons, List.length_nil, List.foldl_cons,
      List.foldl_nil, Continues] at hb hc ⊢
    rw [if_neg (by omega), if_neg (by omega), if_pos (by omega)]
    simp only [List.cons.injEq, and_true, ← UInt8.toNat_inj, UInt8.toNat_ofNat']
    omega
  | four ha hb hc hd hlow hhigh =>
    simp only [codePoint, leadBound, List.length_cons, List.length_nil, List.foldl_cons,
      List.foldl_nil, Continues] at hb hc hd ⊢
    rw [if_neg (by omega), if_neg (by omega), if_neg (by omega)]
    simp only [List.cons.injEq, and_true, ← UInt8.toNat_inj, UInt8.toNat_ofNat']
    omega

/-- every character has one of the encodings, and it is the one of its code point -/
theorem exists_encodes (c : Char) : ∃ lead tail,
    encodeChar c = lead :: tail ∧ Encodes lead tail ∧ codePoint lead tail = c.toNat := by
  have hv : c.val.toNat < 0xD800 ∨ 0xDFFF < c.val.toNat ∧ c.val.toNat < 0x110000 := c.valid
  change ∃ lead tail, String.utf8EncodeChar c = lead :: tail ∧ Encodes lead tail ∧
    codePoint lead tail = c.val.toNat
  generalize hn : c.val.toNat = n at hv
  rw [String.utf8EncodeChar, hn]
  by_cases h1 : n ≤ 0x7F
  · rw [if_pos h1]
    refine ⟨_, _, rfl, .one ?_, ?_⟩
    all_goals simp [codePoint, leadBound]; omega
  by_cases h2 : n ≤ 0x7FF
  · rw [if_neg h1, if_pos h2]
    refine ⟨_, _, rfl, .two ?_ ?_, ?_⟩
    all_goals simp [codePoint, leadBound, Continues]; omega
  by_cases h3 : n ≤ 0xFFFF
  · rw [if_neg h1, if_neg h2, if_pos h3]
    refine ⟨_, _, rfl, .three ?_ ?_ ?_ ?_ ?_, ?_⟩
    all_goals simp [codePoint, leadBound, Continues]; omega
  · rw [if_neg h1, if_neg h2, if_neg h3]
    refine ⟨_, _, rfl, .four ?_ ?_ ?_ ?_ ?_ ?_, ?_⟩
    all_goals simp [codePoint, leadBound, Continues]; omega

end JarLauncher.Utf8
