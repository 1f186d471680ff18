import JarLauncher.Proofs.Utf8.Occurrence
import Mathlib.Data.List.Infix

/-! ASCII octets through the reading of text. A broken segment holds none, and neither does the
character that stands for it; so the text of any octets has the same ASCII octets, in the same
order, and may be cut at each of them. -/

namespace JarLauncher.Utf8

def isAscii (b : UInt8) : Bool := b < 0x80

theorem isAscii_iff {b : UInt8} : isAscii b ↔ b.toNat < 0x80 := by
  simp [isAscii, UInt8.lt_iff_toNat_lt]

theorem not_isAscii_of_continues {b : UInt8} (h : Continues b) : isAscii b = false := by
  rw [← Bool.not_eq_true, isAscii_iff]
  exact Nat.not_lt.2 h.1

/-- a segment that is broken holds no ASCII octet -/
theorem not_isAscii_of_broken {bs octets : Bytes} (h : .broken octets ∈ segments bs) :
    ∀ b ∈ octets, isAscii b = false := by
  induction bs using segments_induction with
  | nil => simp at h
  | cons lead rest ih =>
    rw [segments_cons, List.mem_cons] at h
    rcases h with h | h
    · unfold Segment.ofLead at h
      split at h
      next => cases h
      next hlead =>
        obtain rfl := Segment.broken.inj h
        intro b hb
        rcases List.mem_cons.1 hb with rfl | hb
        · simpa [isAscii] using fun hlt => hlead (Or.inl hlt)
        · exact not_isAscii_of_continues (continues_of_mem_within hb)
    · exact ih h

theorem filter_isAscii_replacement : (encodeChar '\uFFFD').filter isAscii = [] := by decide

/-- The ASCII octets of the text are those of what was read, in order. -/
theorem filter_isAscii_encode_lossy (bs : Bytes) :
    (encode (lossy bs)).filter isAscii = bs.filter isAscii := by
  have hsegment : ∀ seg ∈ segments bs,
      (encodeChar seg.char).filter isAscii = seg.octets.filter isAscii := by
    intro seg hseg
    cases seg with
    | scalar c => rfl
    | broken octets =>
      have hnone : octets.filter isAscii = [] :=
        List.filter_eq_nil_iff.2 fun b hb => by simp [not_isAscii_of_broken hseg b hb]
      exact filter_isAscii_replacement.trans hnone.symm
  calc
    (encode (lossy bs)).filter isAscii =
        (segments bs).flatMap fun seg => (encodeChar seg.char).filter isAscii := by
      simp [encode, lossy, List.flatMap_map, List.filter_flatMap]
    _ = (segments bs).flatMap fun seg => seg.octets.filter isAscii := by
      rw [List.flatMap_def, List.flatMap_def, List.map_congr_left hsegment]
    _ = ((segments bs).flatMap Segment.octets).filter isAscii := by rw [List.filter_flatMap]
    _ = bs.filter isAscii := by rw [octets_segments]

theorem count_encode_lossy {b : UInt8} (hb : isAscii b) (bs : Bytes) :
    (encode (lossy bs)).count b = bs.count b := by
  rw [← List.count_filter hb, filter_isAscii_encode_lossy, List.count_filter hb]

theorem toNat_ofUInt8 (b : UInt8) : (Char.ofUInt8 b).toNat = b.toNat := UInt8.toNat_toUInt32 b

theorem ofUInt8_injective : Function.Injective Char.ofUInt8 := fun a b h => by
  rw [← UInt8.toNat_inj, ← toNat_ofUInt8, ← toNat_ofUInt8, h]

/-- an ASCII octet is the code point of its character -/
theorem encodeChar_ofUInt8 {b : UInt8} (hb : isAscii b) : encodeChar (Char.ofUInt8 b) = [b] := by
  have hascii := isAscii_iff.1 hb
  have hcode : codePoint b [] = (Char.ofUInt8 b).toNat := by
    simp [codePoint, leadBound, toNat_ofUInt8, Nat.mod_eq_of_lt hascii]
  rw [← Char.ofNat_toNat (Char.ofUInt8 b), ← hcode, encodeChar_codePoint (.one hascii)]

/-- octets are cut at an ASCII octet whatever stands before it -/
theorem toList_lossy_append_cons {b : UInt8} (hb : isAscii b) (bs rest : Bytes) :
    (lossy (bs ++ b :: rest)).toList =
      (lossy bs).toList ++ Char.ofUInt8 b :: (lossy rest).toList := by
  have hcut : ∀ c ∈ (b :: rest).head?, ¬ Continues c := by
    intro c hc hcontinues
    obtain rfl : b = c := by simpa using hc
    simp [not_isAscii_of_continues hcontinues] at hb
  have hcons : segments (b :: rest) = .scalar (Char.ofUInt8 b) :: segments rest := by
    rw [← segments_encodeChar, encodeChar_ofUInt8 hb]
    rfl
  simp [lossy, segments_append bs hcut, hcons, Segment.char]

/-- An ASCII octet is a character of its own wherever it stands. -/
theorem ofUInt8_mem_lossy_iff {b : UInt8} (hb : isAscii b) {bs : Bytes} :
    Char.ofUInt8 b ∈ (lossy bs).toList ↔ b ∈ bs := by
  have hne : Char.ofUInt8 b ≠ '\uFFFD' := by
    intro h
    have hpoint : b.toNat = 0xFFFD := (toNat_ofUInt8 b).symm.trans (congrArg Char.toNat h)
    exact absurd (isAscii_iff.1 hb) (by omega)
  rw [mem_lossy_iff_among hne, encodeChar_ofUInt8 hb, List.singleton_infix_iff]

end JarLauncher.Utf8
