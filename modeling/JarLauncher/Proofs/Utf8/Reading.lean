import JarLauncher.Journal
import JarLauncher.Proofs.Utf8.Ascii
import JarLauncher.Proofs.Utf8.Subparts
import Mathlib.Data.List.Forall2

/-! Octets and the text that they read as. Exactly one cut of them follows the rule, and a text that
has one character for each of its segments is the lossy one. That text keeps the ASCII octets, and
what is text already is read as itself. Displayed commands, the warning about a directory and
journals all read octets in this way. -/

namespace JarLauncher.Utf8

theorem encodeChar_ne_nil (c : Char) : encodeChar c ≠ [] := by
  obtain ⟨lead, tail, hc, -, -⟩ := exists_encodes c
  simp [hc]

theorem length_encodeChar_le (c : Char) : (encodeChar c).length ≤ 4 := by
  rw [encodeChar, String.length_utf8EncodeChar]
  exact c.utf8Size_le_four

section

variable {bs octets : Bytes} {segment : Segment} {cut : List Segment}

/-- an encoding that goes on behind its beginning has at least one octet more -/
theorem Begins.length_le (h : Begins octets bs) : octets.length ≤ 3 := by
  obtain ⟨-, -, c, hfront, hproper⟩ := h
  have hshorter : octets.length < (encodeChar c).length :=
    Nat.lt_of_not_le fun hle => hproper (hfront.eq_of_length_le hle)
  have hwhole := length_encodeChar_le c
  omega

theorem Opens.octets_ne_nil (h : Opens bs segment) : segment.octets ≠ [] := by
  cases h with
  | scalar h => exact encodeChar_ne_nil _
  | begun hnone h longest => exact h.1
  | stray hnone h hbegun => exact List.cons_ne_nil _ _

theorem Opens.length_le (h : Opens bs (.broken octets)) : octets.length ≤ 3 := by
  cases h with
  | begun hnone h longest => exact h.length_le
  | stray hnone h hbegun => simp

/-- a cut follows the rule if each segment opens the octets from its own start on -/
theorem cuts_iff_opens :
    Cuts bs cut ↔ cut.flatMap Segment.octets = bs ∧
      ∀ before segment after, cut = before ++ segment :: after →
        Opens (segment.octets ++ after.flatMap Segment.octets) segment := by
  constructor
  · intro h
    induction h with
    | nil => exact ⟨rfl, fun before _ _ heq => by simp at heq⟩
    | @cons first rest cut hfirst more ih =>
      obtain ⟨hjoined, hopens⟩ := ih
      refine ⟨by rw [List.flatMap_cons, hjoined], fun before segment after heq => ?_⟩
      cases before with
      | nil =>
        obtain ⟨rfl, rfl⟩ := List.cons.inj heq
        rwa [hjoined]
      -- a segment further on lies in what the first one leaves
      | cons _ before => exact hopens before segment after (List.cons.inj heq).2
  · rintro ⟨rfl, hopens⟩
    induction cut with
    | nil => exact .nil
    | cons first cut ih =>
      refine .cons (hopens [] first cut rfl) (ih fun before segment after heq => ?_)
      exact hopens (first :: before) segment after (by rw [heq, List.cons_append])

end

/-- `cut` follows the rule on `bs`, and no other cut does -/
structure OnlyCut (bs : Bytes) (cut : List Segment) : Prop where
  only : ∀ other, Cuts bs other ↔ other = cut
  joined : cut.flatMap Segment.octets = bs
  opens : ∀ before segment after, cut = before ++ segment :: after →
    Opens (segment.octets ++ after.flatMap Segment.octets) segment
  filled : ∀ segment ∈ cut, segment.octets ≠ []
  short : ∀ octets, .broken octets ∈ cut → octets.length ≤ 3

theorem onlyCut_segments (bs : Bytes) : OnlyCut bs (segments bs) := by
  obtain ⟨hjoined, hopens⟩ := cuts_iff_opens.1 (cuts_iff.2 rfl : Cuts bs (segments bs))
  refine ⟨fun _ => cuts_iff, hjoined, hopens, fun segment hmem => ?_, fun octets hmem => ?_⟩
  · obtain ⟨before, after, heq⟩ := List.append_of_mem hmem
    exact (hopens before segment after heq).octets_ne_nil
  · obtain ⟨before, after, heq⟩ := List.append_of_mem hmem
    exact (hopens before _ after heq).length_le

/-- `text` has one character for each segment of the only cut -/
def Reads (bs : Bytes) (text : String) : Prop :=
  ∃ cut, OnlyCut bs cut ∧ text.toList = cut.map Segment.char

/-- Any octets read as one text. -/
theorem reads_iff {bs : Bytes} {text : String} : Reads bs text ↔ text = lossy bs := by
  constructor
  · rintro ⟨cut, h, htext⟩
    have hcut : segments bs = cut := (h.only _).1 (cuts_iff.2 rfl)
    rw [lossy, hcut, ← htext, String.ofList_toList]
  · rintro rfl
    exact ⟨segments bs, onlyCut_segments bs, String.toList_ofList⟩

theorem reads_lossy (bs : Bytes) : Reads bs (lossy bs) := reads_iff.2 rfl

/-- Octets read as exactly one text, which has their ASCII octets in order, whose own octets are the
same if they were text, and which is read as itself. A command is displayed as what its line reads
as, the warning looks at what the directory reads as, and each line that ends in a journal becomes
what it reads as. -/
theorem only_cut_is_read (bs : Bytes) :
    (∀ text, Reads bs text ↔ text = lossy bs) ∧
    (encode (lossy bs)).filter isAscii = bs.filter isAscii ∧
    (encode (lossy bs) = bs ↔ Valid bs) ∧
    lossy (encode (lossy bs)) = lossy bs ∧
    (∀ p, let c := Command.ofDir bs p
      Reads c.line c.display ∧
        ∃ text, Reads c.dir text ∧ c.needsQuoting = text.toList.any Command.isSensitive) ∧
    ∀ j : Journal, ∃ texts, List.Forall₂ Reads (Journal.lines (j.pending ++ bs)).1 texts ∧
      (j.write bs).entries = j.entries ++ texts.map .output := by
  refine ⟨fun text => reads_iff, filter_isAscii_encode_lossy bs, encode_lossy_iff bs,
    lossy_encode _, fun p => ⟨reads_lossy _, _, reads_lossy _, rfl⟩, fun j => ?_⟩
  refine ⟨(Journal.lines (j.pending ++ bs)).1.map lossy, ?_, ?_⟩
  · rw [List.forall₂_map_right_iff, List.forall₂_same]
    exact fun line _ => reads_lossy line
  · rw [List.map_map]
    rfl

/-- Some encoding begins with `E2 82`, but none with `ED A0` or with `F4 90`. -/
example :
    segments [0x41, 0xE2, 0x82, 0xED, 0xA0, 0x80, 0xF4, 0x90, 0xC3, 0xA9] =
      [.scalar 'A', .broken [0xE2, 0x82], .broken [0xED], .broken [0xA0], .broken [0x80],
        .broken [0xF4], .broken [0x90], .scalar 'é'] := by decide +kernel

end JarLauncher.Utf8
