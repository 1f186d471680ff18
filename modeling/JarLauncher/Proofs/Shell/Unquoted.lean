import JarLauncher.Proofs.Shell.Fields
import JarLauncher.Proofs.Shell.Lines
import JarLauncher.Shell.Start

/-! What a line of unquoted words comes to: the fields that it was written as, unless there is a
backslash or the sign of a pattern in it. -/

namespace JarLauncher.Shell

open Read

theorem characters_cons (x : Part) (w : Word) :
    Word.characters (x :: w) = x.character?.toList ++ w.characters := by
  cases h : x.character? <;> simp [Word.characters, h]

theorem character?_partOf (b : UInt8) : (partOf b).character? = some b := by
  unfold partOf
  split <;> rfl

theorem character?_partsOf (bs : Bytes) : ∀ x ∈ partsOf bs, ∃ b, x.character? = some b := by
  induction bs using partsOf.induct with
  | case1 => simp [partsOf]
  | case2 b bs ih => simpa [partsOf, Part.character?] using ih
  | case3 b bs hne ih =>
    rw [partsOf]
    · simpa [character?_partOf] using ih
    · exact hne

theorem characters_partsOf_of_notMem {bs : Bytes} (h : 92 ∉ bs) : (partsOf bs).characters = bs := by
  induction bs using partsOf.induct with
  | case1 => rfl
  | case2 b bs ih => simp at h
  | case3 b bs hne ih =>
    simp only [List.mem_cons, not_or] at h
    rw [partsOf, characters_cons, character?_partOf, ih h.2]
    · rfl
    · exact hne

/-- only backslashes are lost -/
theorem mem_characters_partsOf_iff {b : UInt8} (hb : b ≠ 92) (bs : Bytes) :
    b ∈ (partsOf bs).characters ↔ b ∈ bs := by
  induction bs using partsOf.induct with
  | case1 => simp [partsOf, Word.characters]
  | case2 c bs ih => simp [partsOf, characters_cons, Part.character?, hb, ih]
  | case3 c bs hne ih =>
    rw [partsOf, characters_cons, character?_partOf]
    · simp [ih]
    · exact hne

/-- where there is a backslash, an octet is lost -/
theorem length_characters_partsOf {bs : Bytes} (hlast : bs.getLast? ≠ some 92) :
    (partsOf bs).characters.length + (if 92 ∈ bs then 1 else 0) ≤ bs.length := by
  induction bs using partsOf.induct with
  | case1 => simp [partsOf, Word.characters]
  | case2 b bs ih =>
    have hlen := ih (last_of_cons (last_of_cons hlast))
    rw [partsOf, characters_cons, if_pos (by simp)]
    simp only [Part.character?, Option.toList_some, List.length_append, List.length_cons,
      List.length_nil]
    omega
  | case3 b bs hne ih =>
    have hb : b ≠ 92 := ne_backslash hne hlast
    have hlen := ih (last_of_cons hlast)
    have hmem : 92 ∈ b :: bs ↔ 92 ∈ bs := by simp [hb.symm]
    rw [partsOf, characters_cons, character?_partOf]
    · simp only [hmem, Option.toList_some, List.length_append, List.length_cons, List.length_nil]
      omega
    · exact hne

theorem characters_partsOf_eq_iff {bs : Bytes} (hlast : bs.getLast? ≠ some 92) :
    (partsOf bs).characters = bs ↔ 92 ∉ bs := by
  refine ⟨fun h hmem => ?_, characters_partsOf_of_notMem⟩
  have hlen := length_characters_partsOf hlast
  rw [h, if_pos hmem] at hlen
  omega

/-- the first part is the first octet, or one that a backslash guards -/
theorem partsOf_cons (b : UInt8) (bs : Bytes) :
    ∃ x rest, partsOf (b :: bs) = x :: rest ∧ (x = .octet b ∨ ∃ c, x = .escaped c) := by
  unfold partsOf
  split
  case h_1 h => simp at h
  case h_2 c rest h => exact ⟨_, _, rfl, .inr ⟨c, rfl⟩⟩
  case h_3 c rest hne h =>
    obtain ⟨rfl, rfl⟩ := List.cons.inj h
    refine ⟨_, _, rfl, ?_⟩
    unfold partOf
    split
    · exact .inr ⟨b, rfl⟩
    · exact .inl rfl

/-- a word that opens no home directory is what it is read as -/
theorem literal_partsOf {bs : Bytes} (h : IsWord bs) (htilde : bs.head? ≠ some 126) :
    (partsOf bs).Literal := by
  obtain ⟨b, bs, rfl⟩ := List.exists_cons_of_ne_nil h.ne_nil
  refine ⟨?_, character?_partsOf _, ?_⟩
  all_goals obtain ⟨x, rest, heq, hx⟩ := partsOf_cons b bs
  · simp [heq]
  · rw [heq]
    rcases hx with rfl | ⟨c, rfl⟩
    · simpa using htilde
    · simp

theorem noKeyword_of_slash (bs : Bytes) : NoKeyword (partsOf (47 :: bs)) := by
  intro name hname
  have hkeys : ∀ p ∈ Keyword.bySpelling, p.1.head? ≠ some 47 := by decide
  have hhead : name.head? = some 47 := by
    change (Part.octet 47 :: partsOf bs).mapM Part.octet? = some name at hname
    simp only [List.mapM_cons, Part.octet?, Option.bind_eq_bind, Option.bind_some,
      Option.bind_eq_some_iff] at hname
    obtain ⟨rest, -, hname⟩ := hname
    simp at hname
    simp [← hname]
  refine List.lookup_eq_none_iff.2 fun p hp => ?_
  have hp' := hkeys p hp
  rw [bne_iff_ne]
  rintro rfl
  exact hp' hhead

theorem assignment?_of_slash (bs : Bytes) : assignment? (partsOf (47 :: bs)) = none := by
  rfl

/-- Text that a shell takes for one simple command with these fields: each word is its field octet
for octet, and nothing is asked of the shell or the system for it. -/
def HasFields (text : Bytes) (fields : List Bytes) : Prop :=
  ∃ words, IsCommand text words ∧
    ∀ output, words.map (Expansion.fieldsOf output) = fields.map fun bs => pure [bs]

/-- octets of which none is a sign of a pattern -/
def NoPattern (bs : Bytes) : Prop := ∀ b ∈ bs, ¬ Pattern.isSign b

/-- words that open neither a comment nor a home directory -/
def AreWords (ws : List Bytes) : Prop := ∀ w ∈ ws, IsWord w ∧ w.head? ≠ some 126

/-- an octet that stands for itself wherever it is in a word -/
def isPlainOctet (b : UInt8) : Bool := isWordOctet b && b != 92 && !Pattern.isSign b

/-- the octets with a meaning inside a word: blanks, newlines, the signs of operators, what opens
quotes or an expansion, the backslash, and the three signs of a pattern -/
def specialOctets : List UInt8 :=
  [0x09, 0x0A, 0x20, 0x26, 0x28, 0x29, 0x3B, 0x3C, 0x3E, 0x7C, 0x22, 0x24, 0x27, 0x60, 0x5C, 0x2A,
   0x3F, 0x5B]

theorem isPlainOctet_iff : ∀ b : UInt8, isPlainOctet b ↔ b ∉ specialOctets :=
  forall_octet (by decide +kernel)

/-- a word that a shell takes as it stands -/
def Plain (w : Bytes) : Prop :=
  w ≠ [] ∧ w.head? ≠ some 35 ∧ w.head? ≠ some 126 ∧ w.all isPlainOctet

instance (w : Bytes) : Decidable (Plain w) := inferInstanceAs (Decidable (_ ∧ _))

namespace Plain

variable {w : Bytes} (h : Plain w)
include h

theorem octet {b : UInt8} (hb : b ∈ w) : isWordOctet b ∧ b ≠ 92 ∧ ¬ Pattern.isSign b := by
  have hplain := List.all_eq_true.1 h.2.2.2 b hb
  simpa [isPlainOctet, and_assoc] using hplain

theorem getLast?_ne : w.getLast? ≠ some 92 :=
  fun hlast => (h.octet (List.mem_of_getLast? hlast)).2.1 rfl

theorem isWord : IsWord w := ⟨h.1, fun _ hb => (h.octet hb).1, h.2.1, h.getLast?_ne⟩

theorem notMem : 92 ∉ w := fun hmem => (h.octet hmem).2.1 rfl

theorem characters : (partsOf w).characters = w := characters_partsOf_of_notMem h.notMem

theorem noPattern : NoPattern w := fun _ hb => (h.octet hb).2.2

end Plain

theorem map_fieldsOf_iff (output : Command → Sh Bytes) {ws : List Bytes} (hws : AreWords ws)
    (fields : List Bytes) :
    (ws.map partsOf).map (Expansion.fieldsOf output) = fields.map (fun bs => pure [bs]) ↔
      ws.map (fun w => (partsOf w).characters) = fields ∧ ∀ bs ∈ fields, NoPattern bs := by
  induction ws generalizing fields with
  | nil =>
    cases fields with
    | nil => simp
    | cons bs fields => simp
  | cons w ws ih =>
    obtain ⟨⟨hw, htilde⟩, hws⟩ := List.forall_mem_cons.1 hws
    cases fields with
    | nil => simp
    | cons bs fields =>
      have hfirst := Expansion.fieldsOf_eq_pure_iff output (literal_partsOf hw htilde)
        (m := Start.fresh 0) rfl bs
      simp only [List.map_cons, List.cons.injEq, List.forall_mem_cons, hfirst, ih hws, NoPattern]
      constructor
      · rintro ⟨⟨h₁, h₂⟩, h₃, h₄⟩
        exact ⟨⟨h₁, h₃⟩, h₂, h₄⟩
      · rintro ⟨⟨h₁, h₃⟩, h₂, h₄⟩
        exact ⟨⟨h₁, h₂⟩, h₃, h₄⟩

/-- A line of words, of which the first one opens with a slash, comes to what the backslashes leave
of its words, unless there is the sign of a pattern in one of them. -/
theorem hasFields_iff {w : Bytes} {ws : List Bytes} (hws : AreWords ((47 :: w) :: ws))
    (hlen : ws.length + 6 ≤ patience) (fields : List Bytes) :
    HasFields (47 :: w ++ spaced ws) fields ↔
      ((47 :: w) :: ws).map (fun w => (partsOf w).characters) = fields ∧
        ∀ bs ∈ fields, NoPattern bs := by
  have hcommand := isCommand_words (hws _ (by simp)).1 (noKeyword_of_slash w)
    (assignment?_of_slash w) (fun v hv => (hws v (by simp [hv])).1) hlen
  constructor
  · rintro ⟨words, hwords, hfields⟩
    obtain rfl := hwords.unique hcommand
    exact (map_fieldsOf_iff _ hws fields).1 (hfields fun _ => pure [])
  · exact fun h => ⟨_, hcommand, fun output => (map_fieldsOf_iff output hws fields).2 h⟩

/-- a line of plain words, of which the first one opens with a slash, comes to those words -/
theorem hasFields_of_plain {w : Bytes} {ws : List Bytes} (h : ∀ v ∈ (47 :: w) :: ws, Plain v)
    (hlen : ws.length + 6 ≤ patience) :
    HasFields (47 :: w ++ spaced ws) ((47 :: w) :: ws) := by
  have hwords : AreWords ((47 :: w) :: ws) := fun v hv => ⟨(h v hv).isWord, (h v hv).2.2.1⟩
  have hchars : ((47 :: w) :: ws).map (fun w => (partsOf w).characters) = (47 :: w) :: ws :=
    (List.map_congr_left fun v hv => (h v hv).characters).trans (List.map_id _)
  exact (hasFields_iff hwords hlen _).2 ⟨hchars, fun v hv => (h v hv).noPattern⟩

/-- What a shell takes literally: text that opens with a slash is one field as it stands if there is
no special octet in it. -/
theorem hasFields_of_not_special {w : Bytes} (h : ∀ b ∈ w, b ∉ specialOctets) :
    HasFields (47 :: w) [47 :: w] := by
  have hoctets : ∀ b ∈ 47 :: w, isPlainOctet b :=
    List.forall_mem_cons.2 ⟨by decide, fun b hb => (isPlainOctet_iff b).2 (h b hb)⟩
  have hplain : Plain (47 :: w) := ⟨by simp, by simp, by simp, List.all_eq_true.2 hoctets⟩
  have hfields := hasFields_of_plain (List.forall_mem_singleton.2 hplain)
    (show 0 + 6 ≤ patience by decide)
  rwa [show spaced [] = [] from rfl, List.append_nil] at hfields

end JarLauncher.Shell
