import JarLauncher.Command
import JarLauncher.Proofs.Utf8.Ascii
import JarLauncher.Proofs.Utf8.Occurrence

/-! What the warning about a directory means for its octets. The warning looks at the directory as
text, but what it looks for can be found in the octets alone: an ASCII octet, or the encoding of a
blank beyond ASCII. Octets that are no text, next to it or elsewhere, play no part. -/

namespace JarLauncher.Command

open Utf8

/-- the octets of the signs that a shell knows -/
def shellOctets : List UInt8 :=
  [0x22, 0x27, 0x60, 0x24, 0x26, 0x7C, 0x3B, 0x3C, 0x3E, 0x28, 0x29, 0x5E, 0x25, 0x21, 0x2A, 0x3F]

theorem shellSensitive_eq : shellSensitive = shellOctets.map Char.ofUInt8 := by decide

/-- the ASCII octets that are warned about: blanks, and signs that a shell knows -/
def IsSensitiveOctet (b : UInt8) : Prop :=
  0x09 ≤ b ∧ b ≤ 0x0D ∨ b = 0x20 ∨ b ∈ shellOctets

/-- the code points of white space beyond ASCII -/
def wideBlanks : List Nat :=
  [0x85, 0xA0, 0x1680, 0x2000, 0x2001, 0x2002, 0x2003, 0x2004, 0x2005, 0x2006, 0x2007, 0x2008,
   0x2009, 0x200A, 0x2028, 0x2029, 0x202F, 0x205F, 0x3000]

theorem isBlank_iff (c : Char) :
    Text.isBlank c ↔ 0x09 ≤ c.toNat ∧ c.toNat ≤ 0x0D ∨ c.toNat = 0x20 ∨ c.toNat ∈ wideBlanks := by
  simp only [Text.isBlank, Text.inRanges, Text.blankRanges, wideBlanks, List.any_cons,
    List.any_nil, Bool.or_false, Bool.or_eq_true, Bool.and_eq_true, decide_eq_true_eq,
    List.mem_cons, List.not_mem_nil, or_false]
  omega

theorem ofUInt8_mem_shellSensitive_iff {b : UInt8} :
    Char.ofUInt8 b ∈ shellSensitive ↔ b ∈ shellOctets := by
  rw [shellSensitive_eq, List.mem_map_of_injective ofUInt8_injective]

theorem ascii_of_shellSensitive {c : Char} (h : c ∈ shellSensitive) : c.toNat < 0x80 := by
  have hall : shellSensitive.all (·.toNat < 0x80) := by decide
  simpa using List.all_eq_true.1 hall c h

theorem wide_of_wideBlanks {n : Nat} (h : n ∈ wideBlanks) : 0x80 ≤ n ∧ n ≠ 0xFFFD := by
  have hall : ∀ n ∈ wideBlanks, 0x80 ≤ n ∧ n ≠ 0xFFFD := by simp [wideBlanks]
  exact hall n h

theorem IsSensitiveOctet.isAscii {b : UInt8} (h : IsSensitiveOctet b) : isAscii b := by
  rw [isAscii_iff]
  rcases h with ⟨-, h⟩ | rfl | h
  · exact Nat.lt_of_le_of_lt (UInt8.le_iff_toNat_le.1 h) (by decide)
  · decide
  · have hall : ∀ b ∈ shellOctets, b.toNat < 0x80 := by simp [shellOctets]
    exact hall b h

theorem isSensitive_ofUInt8_iff {b : UInt8} (hb : isAscii b) :
    isSensitive (Char.ofUInt8 b) ↔ IsSensitiveOctet b := by
  have hascii := isAscii_iff.1 hb
  have hwide : b.toNat ∉ wideBlanks := fun h => absurd (wide_of_wideBlanks h).1 (by omega)
  rw [isSensitive, Bool.or_eq_true, isBlank_iff, List.contains_iff_mem,
    ofUInt8_mem_shellSensitive_iff, toNat_ofUInt8, IsSensitiveOctet, UInt8.le_iff_toNat_le,
    UInt8.le_iff_toNat_le, ← UInt8.toNat_inj, or_iff_left hwide, or_assoc]
  rfl

theorem isSensitive_iff_of_wide {c : Char} (hc : ¬ c.toNat < 0x80) :
    isSensitive c ↔ c.toNat ∈ wideBlanks := by
  rw [isSensitive, Bool.or_eq_true, isBlank_iff, List.contains_iff_mem,
    or_iff_left (mt ascii_of_shellSensitive hc), or_iff_right (by omega), or_iff_right (by omega)]

theorem exists_ofUInt8_eq {c : Char} (hc : c.toNat < 0x80) :
    ∃ b : UInt8, isAscii b ∧ Char.ofUInt8 b = c := by
  have htoNat : (UInt8.ofNat c.toNat).toNat = c.toNat :=
    (UInt8.toNat_ofNat').trans (Nat.mod_eq_of_lt (by omega))
  refine ⟨UInt8.ofNat c.toNat, isAscii_iff.2 (htoNat.symm ▸ hc), ?_⟩
  rw [← Char.toNat_inj, toNat_ofUInt8, htoNat]

theorem needsQuoting_eq_true_iff (dir : Bytes) (profile : Profile) :
    (ofDir dir profile).needsQuoting = true ↔
      (∃ b ∈ dir, IsSensitiveOctet b) ∨
        ∃ c : Char, c.toNat ∈ wideBlanks ∧ encodeChar c <:+: dir := by
  rw [needsQuoting, ofDir_dir, List.any_eq_true]
  constructor
  · rintro ⟨c, hmem, hc⟩
    by_cases hascii : c.toNat < 0x80
    · obtain ⟨b, hb, rfl⟩ := exists_ofUInt8_eq hascii
      exact .inl ⟨b, (ofUInt8_mem_lossy_iff hb).1 hmem, (isSensitive_ofUInt8_iff hb).1 hc⟩
    · have hwide := (isSensitive_iff_of_wide hascii).1 hc
      have hne : c ≠ '\uFFFD' := fun h => (wide_of_wideBlanks hwide).2 (congrArg Char.toNat h)
      exact .inr ⟨c, hwide, (mem_lossy_iff_among hne).1 hmem⟩
  · rintro (⟨b, hmem, hb⟩ | ⟨c, hwide, hfound⟩)
    · have hascii := hb.isAscii
      exact ⟨_, (ofUInt8_mem_lossy_iff hascii).2 hmem, (isSensitive_ofUInt8_iff hascii).2 hb⟩
    · obtain ⟨hlarge, hpoint⟩ := wide_of_wideBlanks hwide
      have hne : c ≠ '\uFFFD' := fun h => hpoint (congrArg Char.toNat h)
      exact ⟨c, (mem_lossy_iff_among hne).2 hfound, (isSensitive_iff_of_wide (by omega)).2 hwide⟩

/-- A directory is warned about exactly if it has a sensitive ASCII octet, or the encoding of a
blank beyond ASCII at any place and among any octets. So a longer directory, on whichever side, is
warned about too. -/
theorem needsQuoting_iff_octets (dir : Bytes) (profile : Profile) :
    ((ofDir dir profile).needsQuoting = true ↔
      (∃ b ∈ dir, IsSensitiveOctet b) ∨
        ∃ c : Char, c.toNat ∈ wideBlanks ∧ encodeChar c <:+: dir) ∧
    ∀ before after, (ofDir dir profile).needsQuoting = true →
      (ofDir (before ++ dir ++ after) profile).needsQuoting = true := by
  refine ⟨needsQuoting_eq_true_iff dir profile, fun before after => ?_⟩
  rw [needsQuoting_eq_true_iff, needsQuoting_eq_true_iff]
  have hfound : dir <:+: before ++ dir ++ after := List.infix_append before dir after
  rintro (⟨b, hmem, hb⟩ | ⟨c, hwide, hc⟩)
  · exact .inl ⟨b, hfound.subset hmem, hb⟩
  · exact .inr ⟨c, hwide, hc.trans hfound⟩

end JarLauncher.Command
