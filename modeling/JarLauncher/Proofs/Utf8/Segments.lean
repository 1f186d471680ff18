import JarLauncher.Proofs.Utf8.Encoding

/-! Segments of octets. They are the octets they were cut from; text is cut into its characters; and
a cut falls wherever what follows does not continue an encoding, so text that follows any octets
neither mends nor breaks them. -/

namespace JarLauncher.Utf8

/-- octets that encode some text -/
def Valid (bs : Bytes) : Prop := ∃ s : String, encode s = bs

theorem within_of_fills {ranges : List (UInt8 × UInt8)} {tail : Bytes} (h : Fills ranges tail)
    (rest : Bytes) : within ranges (tail ++ rest) = tail := by
  induction ranges generalizing tail with
  | nil => rw [fills_nil.1 h]; simp [within]
  | cons r ranges ih =>
    cases tail with
    | nil => simp [Fills] at h
    | cons b tail =>
      obtain ⟨hb, ht⟩ := h
      simp [within, hb, ih ht]

theorem fills_within {ranges : List (UInt8 × UInt8)} {bs : Bytes}
    (h : (within ranges bs).length = ranges.length) : Fills ranges (within ranges bs) := by
  induction ranges generalizing bs with
  | nil => simp [within, Fills]
  | cons r ranges ih =>
    cases bs with
    | nil => simp [within] at h
    | cons b bs =>
      simp only [within] at h ⊢
      split at h
      next hb => simpa [hb, Fills] using ih (by simpa using h)
      next => simp at h

theorem Fills.length_eq {ranges : List (UInt8 × UInt8)} {bs : Bytes} (h : Fills ranges bs) :
    bs.length = ranges.length := by
  induction ranges generalizing bs with
  | nil => rw [fills_nil.1 h]; rfl
  | cons r ranges ih =>
    cases bs with
    | nil => simp [Fills] at h
    | cons b bs => simp [ih h.2]

/-- what lies in the ranges is found before octets that are in none of them -/
theorem within_append {ranges : List (UInt8 × UInt8)} {rest : Bytes}
    (h : ∀ b ∈ rest.head?, ∀ r ∈ ranges, ¬ (r.1 ≤ b ∧ b ≤ r.2)) (bs : Bytes) :
    within ranges (bs ++ rest) = within ranges bs := by
  induction ranges generalizing bs with
  | nil => simp [within]
  | cons r ranges ih =>
    cases bs with
    | nil =>
      cases rest with
      | nil => rfl
      | cons b rest => simpa [within] using h b rfl r (by simp)
    | cons b bs =>
      simp only [List.cons_append, within]
      rw [ih fun b hb r hr => h b hb r (by simp [hr])]

theorem Segment.ofLead_of_encodes {lead : UInt8} {tail : Bytes} (h : Encodes lead tail) :
    ofLead lead tail = scalar (Char.ofNat (codePoint lead tail)) := by
  obtain ⟨hl, hf⟩ := encodes_iff.1 h
  refine if_pos ?_
  rw [UInt8.lt_iff_toNat_lt]
  exact hl.imp_right fun ht => ⟨ht, hf.length_eq⟩

theorem Segment.octets_ofLead (lead : UInt8) (rest : Bytes) :
    (ofLead lead (within (tails lead) rest)).octets = lead :: within (tails lead) rest := by
  unfold ofLead
  split
  next h =>
    rw [UInt8.lt_iff_toNat_lt] at h
    refine encodeChar_codePoint (encodes_iff.2 ⟨h.imp_right And.left, fills_within ?_⟩)
    rcases h with h | ⟨-, h⟩
    · have ht : tails lead = [] := by
        rcases tails_cases lead with ⟨-, ht⟩ | h'
        · exact ht
        · simp only [UInt8.reduceToNat] at h; omega
      simp [ht, within]
    · exact h
  next => rfl

/-- octets are cut at their front, and then what is left -/
theorem segments_induction {P : Bytes → Prop} (nil : P [])
    (cons : ∀ lead rest, P (rest.drop (within (tails lead) rest).length) → P (lead :: rest)) :
    ∀ bs, P bs
  | [] => nil
  | lead :: rest => cons lead rest (segments_induction nil cons _)
termination_by bs => bs.length

theorem octets_segments (bs : Bytes) : (segments bs).flatMap Segment.octets = bs := by
  induction bs using segments_induction with
  | nil => simp
  | cons lead rest ih =>
    have hpre := within_prefix (tails lead) rest
    rw [segments_cons, List.flatMap_cons, Segment.octets_ofLead, ih, List.cons_append,
      List.prefix_iff_eq_append.1 hpre]

theorem segments_append (bs : Bytes) {rest : Bytes} (h : ∀ b ∈ rest.head?, ¬ Continues b) :
    segments (bs ++ rest) = segments bs ++ segments rest := by
  induction bs using segments_induction with
  | nil => simp
  | cons lead bs ih =>
    have hw : within (tails lead) (bs ++ rest) = within (tails lead) bs :=
      within_append (fun b hb r hr hin => h b hb (tails_continue hr hin)) bs
    have hpre := within_prefix (tails lead) bs
    rw [List.cons_append, segments_cons, segments_cons, hw,
      List.drop_append_of_le_length hpre.length_le, ih, List.cons_append]

theorem segments_encodeChar (c : Char) (rest : Bytes) :
    segments (encodeChar c ++ rest) = .scalar c :: segments rest := by
  obtain ⟨lead, tail, hc, he, hp⟩ := exists_encodes c
  rw [hc, List.cons_append, segments_cons, within_of_fills (encodes_iff.1 he).2,
    Segment.ofLead_of_encodes he, hp, Char.ofNat_toNat, List.drop_left]

theorem segments_encode (s : String) : segments (encode s) = s.toList.map .scalar := by
  unfold encode
  induction s.toList with
  | nil => simp
  | cons c cs ih => rw [List.flatMap_cons, segments_encodeChar, ih, List.map_cons]

theorem head_encodeChar_not_continues (c : Char) (rest : Bytes) :
    ∀ b ∈ (encodeChar c ++ rest).head?, ¬ Continues b := by
  obtain ⟨lead, tail, hc, he, -⟩ := exists_encodes c
  simpa [hc] using he.not_continues

theorem head_encode_not_continues (s : String) : ∀ b ∈ (encode s).head?, ¬ Continues b := by
  unfold encode
  cases s.toList with
  | nil => simp
  | cons c cs => exact head_encodeChar_not_continues c (cs.flatMap encodeChar)

theorem lossy_encode (s : String) : lossy (encode s) = s := by
  simp [lossy, segments_encode, Function.comp_def, Segment.char]

theorem encode_injective {s t : String} (h : encode s = encode t) : s = t := by
  rw [← lossy_encode s, h, lossy_encode]

theorem mapM_scalar?_eq_some_iff {cut : List Segment} {cs : List Char} :
    cut.mapM Segment.scalar? = some cs ↔ cut = cs.map .scalar := by
  induction cut generalizing cs with
  | nil => cases cs <;> simp
  | cons segment cut ih =>
    cases segment with
    | scalar c =>
      cases cs with
      | nil => simp [Segment.scalar?, Option.bind_eq_some_iff]
      | cons d cs => simpa [Segment.scalar?, Option.bind_eq_some_iff, ih] using and_comm
    | broken octets => cases cs <;> simp [Segment.scalar?]

/-- Octets are text exactly if they are the encoding of it. -/
theorem decode?_eq_some_iff {bs : Bytes} {s : String} : decode? bs = some s ↔ bs = encode s := by
  rw [decode?, Option.map_eq_some_iff]
  constructor
  · rintro ⟨cs, hcs, rfl⟩
    rw [← octets_segments bs, mapM_scalar?_eq_some_iff.1 hcs, List.flatMap_map, encode,
      String.toList_ofList]
    rfl
  · rintro rfl
    exact ⟨s.toList, mapM_scalar?_eq_some_iff.2 (segments_encode s), String.ofList_toList⟩

/-- text behind any octets is read as it is -/
theorem lossy_append_encode (bs : Bytes) (t : String) : lossy (bs ++ encode t) = lossy bs ++ t := by
  rw [lossy, segments_append bs (head_encode_not_continues t), List.map_append, String.ofList_append,
    ← lossy, ← lossy, lossy_encode]

/-- only text is shown as it is -/
theorem encode_lossy_iff (bs : Bytes) : encode (lossy bs) = bs ↔ Valid bs := by
  constructor
  · exact fun h => ⟨lossy bs, h⟩
  · rintro ⟨s, rfl⟩
    rw [lossy_encode]

theorem valid_append_encode_iff (bs : Bytes) (t : String) : Valid (bs ++ encode t) ↔ Valid bs := by
  constructor
  · rintro ⟨s, hs⟩
    have hseg : segments bs ++ segments (encode t) = s.toList.map .scalar := by
      rw [← segments_append bs (head_encode_not_continues t), ← hs, segments_encode]
    obtain ⟨cs, ds, -, hcs, -⟩ := List.append_eq_map_iff.1 hseg
    refine ⟨String.ofList cs, ?_⟩
    rw [← octets_segments bs, ← hcs, encode, String.toList_ofList, List.flatMap_map]
    rfl
  · rintro ⟨s, rfl⟩
    exact ⟨s ++ t, encode_append s t⟩

theorem exists_range_of_mem_within {ranges : List (UInt8 × UInt8)} {b : UInt8} {bs : Bytes}
    (h : b ∈ within ranges bs) : ∃ r ∈ ranges, r.1 ≤ b ∧ b ≤ r.2 := by
  induction ranges generalizing bs with
  | nil => simp [within] at h
  | cons r ranges ih =>
    cases bs with
    | nil => simp [within] at h
    | cons c bs =>
      simp only [within] at h
      split at h
      next hc =>
        rcases List.mem_cons.1 h with rfl | h
        · exact ⟨r, by simp, hc⟩
        · obtain ⟨r', hr', hb⟩ := ih h
          exact ⟨r', by simp [hr'], hb⟩
      next => simp at h

theorem continues_of_mem_within {lead b : UInt8} {bs : Bytes} (h : b ∈ within (tails lead) bs) :
    Continues b := by
  obtain ⟨r, hr, hb⟩ := exists_range_of_mem_within h
  exact tails_continue hr hb

end JarLauncher.Utf8
