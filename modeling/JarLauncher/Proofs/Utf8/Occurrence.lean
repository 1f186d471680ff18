import JarLauncher.Proofs.Utf8.Segments

/-! Characters and the octets they are found in. The encoding of a character is read as that
character wherever it stands, whatever comes before and behind it; and a character that is read was
encoded there, unless it is the one that stands for broken octets. -/

namespace JarLauncher.Utf8

/-- a cut falls before every encoded character and behind it -/
theorem segments_around (before : Bytes) (c : Char) (after : Bytes) :
    segments (before ++ encodeChar c ++ after) = segments before ++ .scalar c :: segments after := by
  rw [List.append_assoc, segments_append before (head_encodeChar_not_continues c after),
    segments_encodeChar]

theorem scalar_mem_segments_iff_among {c : Char} {bs : Bytes} :
    .scalar c ∈ segments bs ↔ encodeChar c <:+: bs := by
  constructor
  · intro h
    obtain ⟨before, after, hcut⟩ := List.append_of_mem h
    refine ⟨before.flatMap Segment.octets, after.flatMap Segment.octets, ?_⟩
    calc
      before.flatMap Segment.octets ++ encodeChar c ++ after.flatMap Segment.octets =
          (segments bs).flatMap Segment.octets := by simp [hcut, Segment.octets]
      _ = bs := octets_segments bs
  · rintro ⟨before, after, rfl⟩
    rw [segments_around]
    exact List.mem_append_right _ List.mem_cons_self

/-- A character is in the text of octets exactly if its encoding is among them, one octet right
behind the other. -/
theorem mem_lossy_iff_among {c : Char} (hc : c ≠ '\uFFFD') {bs : Bytes} :
    c ∈ (lossy bs).toList ↔ encodeChar c <:+: bs := by
  rw [← scalar_mem_segments_iff_among, lossy, String.toList_ofList, List.mem_map]
  constructor
  · rintro ⟨segment, hmem, rfl⟩
    cases segment with
    | scalar c => exact hmem
    | broken octets => exact absurd rfl hc
  · exact fun h => ⟨_, h, rfl⟩

end JarLauncher.Utf8
