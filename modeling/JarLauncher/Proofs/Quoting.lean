import JarLauncher.Command
import JarLauncher.Proofs.Shell.Unquoted
import JarLauncher.Proofs.Utf8.Ascii

/-! What it means that a directory needs no quoting. The shell takes such a directory as it stands,
but for two octets that the warning does not know: the backslash, which is lost, and the bracket
that opens a set of a pattern. -/

namespace JarLauncher

/-- texts that a shell takes as they stand -/
structure Profile.Plain (profile : Profile) : Prop where
  path : Shell.Plain (Utf8.encode profile.path)
  flags : Shell.Plain (Utf8.encode profile.flags)
  jar : Shell.Plain (Utf8.encode profile.jar)

namespace Command

open Shell Shell.Read

/-- text is decoded to itself -/
theorem needsQuoting_encode (s : String) (profile : Profile) :
    (ofDir (Utf8.encode s) profile).needsQuoting = s.toList.any isSensitive := by
  rw [needsQuoting, ofDir_dir, Utf8.lossy_encode]

theorem isSensitive_of_not_wordOctet {b : UInt8} (h : isWordOctet b = false ∨ b = 42 ∨ b = 63) :
    b.toNat < 0x80 ∧ isSensitive (Char.ofUInt8 b) := by
  have hall : (" \t\n|&;<>()\"'`$".toList ++ ['*', '?']).all
      fun c => decide (c.toNat < 0x80) && isSensitive c := by decide
  rw [← Utf8.toNat_ofUInt8, ← decide_eq_true_iff (p := (Char.ofUInt8 b).toNat < 0x80),
    ← Bool.and_eq_true]
  refine List.all_eq_true.1 hall _ ?_
  rcases h with h | rfl | rfl
  · rw [isWordOctet, Bool.not_eq_false'] at h
    exact List.mem_append_left _ (List.contains_iff_mem.1 h)
  · decide
  · decide

/-- a directory without a warning has no octet that ends a word, opens quotes or an expansion, or
stands for any others -/
theorem octet_of_not_needsQuoting {dir : Bytes} {profile : Profile}
    (h : (ofDir dir profile).needsQuoting = false) {b : UInt8} (hb : b ∈ dir) :
    isWordOctet b ∧ b ≠ 42 ∧ b ≠ 63 := by
  have hmem (hs : isWordOctet b = false ∨ b = 42 ∨ b = 63) : False := by
    obtain ⟨hascii, hs⟩ := isSensitive_of_not_wordOctet hs
    have hshown := (Utf8.ofUInt8_mem_lossy_iff (Utf8.isAscii_iff.2 hascii)).2 hb
    exact List.any_eq_false.1 h _ hshown hs
  refine ⟨?_, fun hb => hmem (.inr (.inl hb)), fun hb => hmem (.inr (.inr hb))⟩
  cases hw : isWordOctet b
  · exact (hmem (.inl hw)).elim
  · rfl

theorem plain_bundled : Profile.bundled.Plain := by
  have hall : ∀ s ∈ [Profile.bundled.path, Profile.bundled.flags, Profile.bundled.jar],
      Shell.Plain (Utf8.encode s) := by decide +kernel
  exact ⟨hall _ (by simp), hall _ (by simp), hall _ (by simp)⟩

theorem getLast?_append_ne {dir w : Bytes} (hw : w ≠ []) (hlast : w.getLast? ≠ some 92) :
    (dir ++ w).getLast? ≠ some 92 := by
  rw [List.getLast?_append, List.getLast?_eq_some_getLast hw, Option.some_or,
    ← List.getLast?_eq_some_getLast hw]
  exact hlast

/-- a line, word by word -/
theorem line_eq_spaced (dir : Bytes) (profile : Profile) : (ofDir dir profile).line =
    dir ++ Utf8.encode profile.path ++
      spaced [Utf8.encode profile.flags, Utf8.encode profile.jar] := by
  have hblank : Utf8.encode " " = [32] := by decide
  simp [Profile.text, spaced, hblank]

section Line

variable {dir : Bytes} {profile : Profile} (hprofile : profile.Plain)
  (hquote : (ofDir dir profile).needsQuoting = false)
include hprofile hquote

theorem areWords_line (hroot : dir.head? = some 47) :
    AreWords [dir ++ Utf8.encode profile.path, Utf8.encode profile.flags,
      Utf8.encode profile.jar] := by
  have hfirst : IsWord (dir ++ Utf8.encode profile.path) := by
    refine ⟨?_, ?_, ?_, ?_⟩
    · rintro h
      simp [(List.append_eq_nil_iff.1 h).1] at hroot
    · intro b hb
      rcases List.mem_append.1 hb with hb | hb
      · exact (octet_of_not_needsQuoting hquote hb).1
      · exact hprofile.path.isWord.octets b hb
    · simp [List.head?_append, hroot]
    · exact getLast?_append_ne hprofile.path.1 hprofile.path.getLast?_ne
  simp only [AreWords, List.forall_mem_cons]
  exact ⟨⟨hfirst, by simp [List.head?_append, hroot]⟩,
    ⟨hprofile.flags.isWord, hprofile.flags.2.2.1⟩, ⟨hprofile.jar.isWord, hprofile.jar.2.2.1⟩,
    by simp⟩

/-- a directory without a warning makes a pattern only by a bracket -/
theorem noPattern_iff :
    NoPattern (partsOf (dir ++ Utf8.encode profile.path)).characters ↔ 91 ∉ dir := by
  constructor
  · intro h hmem
    refine h 91 ((mem_characters_partsOf_iff (by decide) _).2 (List.mem_append_left _ hmem)) ?_
    decide
  · intro h b hb hsign
    have hb' : b ∈ dir ++ Utf8.encode profile.path :=
      (mem_characters_partsOf_iff (by rintro rfl; simp [Pattern.isSign] at hsign) _).1 hb
    rcases List.mem_append.1 hb' with hb' | hb'
    · obtain ⟨-, hstar, hmark⟩ := octet_of_not_needsQuoting hquote hb'
      have hbracket : b = 91 := by simpa [Pattern.isSign, hstar, hmark] using hsign
      exact h (hbracket ▸ hb')
    · exact hprofile.path.noPattern b hb' hsign

/-- The line of a directory without a warning is read as the directory's text without its
backslashes, unless it is a pattern. -/
theorem hasFields_line_iff (hroot : dir.head? = some 47) (fields : List Bytes) :
    HasFields (ofDir dir profile).line fields ↔
      [(partsOf (dir ++ Utf8.encode profile.path)).characters, Utf8.encode profile.flags,
        Utf8.encode profile.jar] = fields ∧ 91 ∉ dir := by
  have hwords := areWords_line hprofile hquote hroot
  have hpattern := noPattern_iff hprofile hquote
  obtain ⟨rest, rfl⟩ : ∃ rest, dir = 47 :: rest := by
    cases dir with
    | nil => simp at hroot
    | cons b rest => exact ⟨rest, by simpa using hroot⟩
  rw [line_eq_spaced]
  rw [List.cons_append] at hwords hpattern ⊢
  rw [hasFields_iff hwords (show 2 + 6 ≤ patience by decide)]
  simp only [List.map_cons, List.map_nil, hprofile.flags.characters, hprofile.jar.characters]
  constructor
  · rintro ⟨rfl, hall⟩
    exact ⟨rfl, hpattern.1 (hall _ (by simp))⟩
  · rintro ⟨rfl, h⟩
    refine ⟨rfl, ?_⟩
    simp only [List.forall_mem_cons]
    exact ⟨hpattern.2 h, hprofile.flags.noPattern, hprofile.jar.noPattern, by simp⟩

theorem hasFields_unquoted_iff (hroot : dir.head? = some 47) :
    HasFields (ofDir dir profile).line
        [dir ++ Utf8.encode profile.path, Utf8.encode profile.flags, Utf8.encode profile.jar] ↔
      92 ∉ dir ∧ 91 ∉ dir := by
  have hlast : (dir ++ Utf8.encode profile.path).getLast? ≠ some 92 :=
    getLast?_append_ne hprofile.path.1 hprofile.path.getLast?_ne
  have hchars := characters_partsOf_eq_iff hlast
  rw [List.mem_append, or_iff_left hprofile.path.notMem] at hchars
  rw [hasFields_line_iff hprofile hquote hroot, ← hchars]
  simp

end Line

/-- without a directory the line is taken as the profile has it -/
theorem hasFields_of_nil {profile : Profile} (hprofile : profile.Plain)
    (hroot : (Utf8.encode profile.path).head? = some 47) :
    HasFields (ofDir [] profile).line
      [Utf8.encode profile.path, Utf8.encode profile.flags, Utf8.encode profile.jar] := by
  obtain ⟨rest, hpath⟩ := List.head?_eq_some_iff.1 hroot
  rw [line_eq_spaced, List.nil_append]
  have hwords : ∀ v ∈ [Utf8.encode profile.path, Utf8.encode profile.flags,
      Utf8.encode profile.jar], Shell.Plain v := by
    simp only [List.forall_mem_cons]
    exact ⟨hprofile.path, hprofile.flags, hprofile.jar, by simp⟩
  rw [hpath] at hwords ⊢
  exact hasFields_of_plain hwords (show 2 + 6 ≤ patience by decide)

/-- A directory that needs no quoting is taken as it stands exactly if there is neither a backslash
nor an opening bracket in it: the line is one simple command of three fields, the first one the
directory and the path of the runtime, octet for octet. -/
theorem hasFields_of_unquoted_iff {dir : Bytes} (hroot : dir.head? = some 47)
    (hquote : (ofDir dir .bundled).needsQuoting = false) :
    HasFields (ofDir dir .bundled).line
        [dir ++ Utf8.encode "/jre/bin/java", Utf8.encode "--enable-preview",
          Utf8.encode "sequencer.jar"] ↔
      92 ∉ dir ∧ 91 ∉ dir :=
  hasFields_unquoted_iff plain_bundled hquote hroot

/-- a directory with an octet of no encoding -/
theorem hasFields_of_unquoted_iff_of_stray :
    let dir := Utf8.encode "/opt/app" ++ [0xFF]
    dir.head? = some 47 ∧ (ofDir dir .bundled).needsQuoting = false ∧
      (HasFields (ofDir dir .bundled).line
          [dir ++ Utf8.encode "/jre/bin/java", Utf8.encode "--enable-preview",
            Utf8.encode "sequencer.jar"] ↔
        92 ∉ dir ∧ 91 ∉ dir) := by
  intro dir
  have hroot : dir.head? = some 47 := by decide
  have hquote : (ofDir dir .bundled).needsQuoting = false := by decide +kernel
  exact ⟨hroot, hquote, hasFields_of_unquoted_iff hroot hquote⟩

/-- Without a warning the shell runs another program where there is a backslash in the directory,
and takes the line for a pattern where there are brackets. -/
theorem unquoted_not_read_as_written :
    let others := [Utf8.encode "--enable-preview", Utf8.encode "sequencer.jar"]
    let lost := Utf8.encode "/a\\b"
    let pattern := Utf8.encode "/a[b]"
    (lost.head? = some 47 ∧ 0 ∉ lost ∧ (ofDir lost .bundled).needsQuoting = false ∧
      HasFields (ofDir lost .bundled).line (Utf8.encode "/ab/jre/bin/java" :: others) ∧
      ¬ HasFields (ofDir lost .bundled).line
        ((lost ++ Utf8.encode "/jre/bin/java") :: others)) ∧
    pattern.head? = some 47 ∧ 0 ∉ pattern ∧ (ofDir pattern .bundled).needsQuoting = false ∧
      ∀ fields, ¬ HasFields (ofDir pattern .bundled).line fields := by
  intro others lost pattern
  have hlost : lost.head? = some 47 ∧ 0 ∉ lost ∧ (ofDir lost .bundled).needsQuoting = false := by
    rw [needsQuoting_encode]
    decide
  have hpattern : pattern.head? = some 47 ∧ 0 ∉ pattern ∧
      (ofDir pattern .bundled).needsQuoting = false := by
    rw [needsQuoting_encode]
    decide
  refine ⟨⟨hlost.1, hlost.2.1, hlost.2.2, ?_, ?_⟩, hpattern.1, hpattern.2.1, hpattern.2.2, ?_⟩
  · rw [hasFields_line_iff plain_bundled hlost.2.2 hlost.1]
    decide
  · rw [hasFields_line_iff plain_bundled hlost.2.2 hlost.1]
    decide
  · intro fields
    rw [hasFields_line_iff plain_bundled hpattern.2.2 hpattern.1]
    have hbracket : 91 ∈ pattern := by decide
    exact fun h => h.2 hbracket

end Command
end JarLauncher
