import JarLauncher.Proofs.Utf8.Segments

/-! The rule that octets are cut by, stated apart from the ranges. An encoded character is a
segment; where none stands, the longest beginning of an encoding is, and an octet that begins none
is one alone. Exactly one cut follows the rule, and it is the one that text is read from. -/

namespace JarLauncher.Utf8

/-- `piece` is at the front of `bs` and at the front of an encoding that goes on behind it -/
def Begins (piece bs : Bytes) : Prop :=
  piece ≠ [] ∧ piece <+: bs ∧ ∃ c, piece <+: encodeChar c ∧ piece ≠ encodeChar c

/-- the segment that `bs` opens with -/
inductive Opens (bs : Bytes) : Segment → Prop
  | scalar {c} (h : encodeChar c <+: bs) : Opens bs (.scalar c)
  | begun {piece} (hnone : ∀ c, ¬ encodeChar c <+: bs) (h : Begins piece bs)
      (longest : ∀ other, Begins other bs → other.length ≤ piece.length) :
      Opens bs (.broken piece)
  | stray {b rest} (hnone : ∀ c, ¬ encodeChar c <+: bs) (h : bs = b :: rest)
      (hbegun : ∀ piece, ¬ Begins piece bs) : Opens bs (.broken [b])

/-- the segments of `bs`, one behind the other -/
inductive Cuts : Bytes → List Segment → Prop
  | nil : Cuts [] []
  | cons {segment rest cut} (h : Opens (segment.octets ++ rest) segment) (more : Cuts rest cut) :
      Cuts (segment.octets ++ rest) (segment :: cut)

/-- an encoding at the front is found by its ranges -/
theorem exists_of_encodeChar_prefix {c : Char} {bs : Bytes} (h : encodeChar c <+: bs) :
    ∃ lead tail rest, bs = lead :: (tail ++ rest) ∧ encodeChar c = lead :: tail ∧
      Encodes lead tail ∧ within (tails lead) (tail ++ rest) = tail ∧
      Segment.ofLead lead tail = .scalar c := by
  obtain ⟨lead, tail, hc, he, hp⟩ := exists_encodes c
  obtain ⟨rest, rfl⟩ := h
  refine ⟨lead, tail, rest, by rw [hc, List.cons_append], hc, he, ?_, ?_⟩
  · exact within_of_fills (encodes_iff.1 he).2 rest
  · rw [Segment.ofLead_of_encodes he, hp, Char.ofNat_toNat]

theorem within_nil (bs : Bytes) : within [] bs = [] := by simp [within]

/-- what fills the first of the ranges is found, too -/
theorem prefix_within {ranges : List (UInt8 × UInt8)} {piece tail rest : Bytes}
    (h : Fills ranges tail) (ht : piece <+: tail) (hr : piece <+: rest) :
    piece <+: within ranges rest := by
  induction ranges generalizing piece tail rest with
  | nil =>
    rw [fills_nil.1 h, List.prefix_nil] at ht
    simp [ht]
  | cons r ranges ih =>
    obtain ⟨b, tail', rfl, hb, hf⟩ := fills_cons.1 h
    cases piece with
    | nil => exact List.nil_prefix
    | cons a piece =>
      obtain ⟨rfl, htail⟩ := List.cons_prefix_cons.1 ht
      cases rest with
      | nil => simp at hr
      | cons d rest =>
        obtain ⟨rfl, hrest⟩ := List.cons_prefix_cons.1 hr
        have hin : r.1 ≤ a ∧ a ≤ r.2 := by simpa [UInt8.le_iff_toNat_le] using hb
        rw [within, if_pos hin]
        exact List.cons_prefix_cons.2 ⟨rfl, ih hf htail hrest⟩

theorem le_of_mem_tails {lead : UInt8} {r : UInt8 × UInt8} (h : r ∈ tails lead) : r.1 ≤ r.2 := by
  rcases tails_cases lead with ⟨-, ht⟩ | ⟨-, ht⟩ | ⟨-, ht⟩ | ⟨-, ht⟩ | ⟨-, ht⟩ | ⟨-, ht⟩ | ⟨-, ht⟩ |
    ⟨-, ht⟩ <;> rw [ht] at h <;> revert r <;> simp [UInt8.le_iff_toNat_le]

/-- what was found in the ranges can be filled up -/
theorem exists_fills_of_within {ranges : List (UInt8 × UInt8)} (h : ∀ r ∈ ranges, r.1 ≤ r.2)
    (bs : Bytes) : ∃ tail, Fills ranges tail ∧ within ranges bs <+: tail := by
  induction ranges generalizing bs with
  | nil => exact ⟨[], trivial, by simp [within]⟩
  | cons r ranges ih =>
    obtain ⟨hr, hranges⟩ := List.forall_mem_cons.1 h
    cases bs with
    | nil =>
      obtain ⟨tail, hf, -⟩ := ih hranges []
      exact ⟨r.1 :: tail, ⟨⟨UInt8.le_refl _, hr⟩, hf⟩, by simp [within]⟩
    | cons b bs =>
      obtain ⟨tail, hf, hw⟩ := ih hranges bs
      rw [within]
      split
      next hb => exact ⟨b :: tail, ⟨hb, hf⟩, List.cons_prefix_cons.2 ⟨rfl, hw⟩⟩
      next => exact ⟨r.1 :: tail, ⟨⟨UInt8.le_refl _, hr⟩, hf⟩, List.nil_prefix⟩

section

variable {lead : UInt8} {rest piece : Bytes}

/-- a piece that begins an encoding lies within the ranges of its lead octet -/
theorem Begins.prefix_within (h : Begins piece (lead :: rest)) :
    tails lead ≠ [] ∧ piece <+: lead :: within (tails lead) rest := by
  obtain ⟨hne, hfront, c, hc, hproper⟩ := h
  obtain ⟨a, tail, ha, he, -⟩ := exists_encodes c
  rw [ha] at hc hproper
  cases piece with
  | nil => exact absurd rfl hne
  | cons b piece =>
    obtain ⟨rfl, hrest⟩ := List.cons_prefix_cons.1 hfront
    obtain ⟨rfl, htail⟩ := List.cons_prefix_cons.1 hc
    have hf := (encodes_iff.1 he).2
    refine ⟨fun ht => ?_, List.cons_prefix_cons.2 ⟨rfl, Utf8.prefix_within hf htail hrest⟩⟩
    rw [ht, fills_nil] at hf
    rw [hf, List.prefix_nil] at htail
    exact hproper (by rw [hf, htail])

/-- where no encoded character stands, what lies within the ranges begins an encoding -/
theorem begins_within (hnone : ∀ c, ¬ encodeChar c <+: lead :: rest) (ht : tails lead ≠ []) :
    Begins (lead :: within (tails lead) rest) (lead :: rest) := by
  obtain ⟨tail, hf, hw⟩ := exists_fills_of_within (fun _ => le_of_mem_tails) rest
  have he : encodeChar (Char.ofNat (codePoint lead tail)) = lead :: tail :=
    encodeChar_codePoint (encodes_iff.2 ⟨.inr ht, hf⟩)
  have hfront : lead :: within (tails lead) rest <+: lead :: rest :=
    List.cons_prefix_cons.2 ⟨rfl, within_prefix _ rest⟩
  -- were it whole, that encoding would stand at the front
  refine ⟨by simp, hfront, _, he ▸ List.cons_prefix_cons.2 ⟨rfl, hw⟩, fun heq => ?_⟩
  exact hnone _ (heq ▸ hfront)

/-- a segment that is no character is found exactly where no encoded character stands -/
theorem ofLead_of_none (hnone : ∀ c, ¬ encodeChar c <+: lead :: rest) :
    Segment.ofLead lead (within (tails lead) rest) =
      .broken (lead :: within (tails lead) rest) := by
  have hoctets := Segment.octets_ofLead lead rest
  cases hseg : Segment.ofLead lead (within (tails lead) rest) with
  | scalar c =>
    rw [hseg] at hoctets
    refine absurd ?_ (hnone c)
    rw [show encodeChar c = _ from hoctets]
    exact List.cons_prefix_cons.2 ⟨rfl, within_prefix _ rest⟩
  | broken octets => rw [hseg] at hoctets; exact congrArg _ hoctets

/-- By the rule, octets open with the segment that their ranges give. -/
theorem opens_iff {segment : Segment} :
    Opens (lead :: rest) segment ↔ segment = Segment.ofLead lead (within (tails lead) rest) := by
  constructor
  · intro h
    cases h with
    | @scalar c h =>
      obtain ⟨lead', tail, rest', hbs, -, -, hw, hseg⟩ := exists_of_encodeChar_prefix h
      obtain ⟨rfl, rfl⟩ := List.cons.inj hbs
      rw [hw, hseg]
    | @begun piece hnone h longest =>
      obtain ⟨ht, hpre⟩ := h.prefix_within
      rw [ofLead_of_none hnone,
        hpre.eq_of_length_le (longest _ (begins_within hnone ht))]
    | @stray b rest' hnone h hbegun =>
      obtain ⟨rfl, -⟩ := List.cons.inj h
      have ht : tails lead = [] :=
        Decidable.not_not.1 fun ht => hbegun _ (begins_within hnone ht)
      rw [ofLead_of_none hnone, ht, within_nil]
  · rintro rfl
    -- an encoding at the front, a beginning of one, or neither: `tails` is empty only for the last
    by_cases hsome : ∃ c, encodeChar c <+: lead :: rest
    · obtain ⟨c, hc⟩ := hsome
      obtain ⟨lead', tail, rest', hbs, -, -, hw, hseg⟩ := exists_of_encodeChar_prefix hc
      obtain ⟨rfl, rfl⟩ := List.cons.inj hbs
      rw [hw, hseg]
      exact .scalar hc
    · have hnone := not_exists.1 hsome
      rw [ofLead_of_none hnone]
      by_cases ht : tails lead = []
      · have hbegun (piece : Bytes) : ¬ Begins piece (lead :: rest) :=
          fun h => h.prefix_within.1 ht
        rw [ht, within_nil]
        exact .stray hnone rfl hbegun
      · exact .begun hnone (begins_within hnone ht) fun _ h => h.prefix_within.2.length_le

end

theorem not_opens_nil (segment : Segment) : ¬ Opens [] segment := by
  intro h
  cases h with
  | @scalar c h =>
    obtain ⟨_, _, _, hbs, -⟩ := exists_of_encodeChar_prefix h
    cases hbs
  | begun hnone h longest => exact h.1 (List.prefix_nil.1 h.2.1)
  | stray hnone h hbegun => cases h

/-- Octets are cut by the rule in exactly one way. -/
theorem cuts_iff {bs : Bytes} {cut : List Segment} : Cuts bs cut ↔ cut = segments bs := by
  constructor
  · intro h
    induction h with
    | nil => simp
    | @cons segment rest cut h more ih =>
      cases hbs : segment.octets ++ rest with
      | nil => exact absurd (hbs ▸ h) (not_opens_nil segment)
      | cons lead bs =>
        have hseg := opens_iff.1 (hbs ▸ h)
        have hoctets := Segment.octets_ofLead lead bs
        rw [← hseg] at hoctets
        rw [hoctets, List.cons_append] at hbs
        have hrest : bs.drop (within (tails lead) bs).length = rest :=
          (congrArg (List.drop _) (List.cons.inj hbs).2.symm).trans List.drop_left
        rw [segments_cons, ← hseg, ih, hrest]
  · rintro rfl
    induction bs using segments_induction with
    | nil => rw [segments_nil]; exact .nil
    | cons lead rest ih =>
      have hpre := within_prefix (tails lead) rest
      have hbs : (Segment.ofLead lead (within (tails lead) rest)).octets ++
          rest.drop (within (tails lead) rest).length = lead :: rest := by
        rw [Segment.octets_ofLead, List.cons_append, List.prefix_iff_eq_append.1 hpre]
      have hcut := Cuts.cons (hbs ▸ opens_iff.2 rfl) ih
      rwa [hbs, ← segments_cons] at hcut

end JarLauncher.Utf8
