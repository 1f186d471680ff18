import JarLauncher.Command
import JarLauncher.Proofs.Utf8.Ascii
import JarLauncher.Proofs.Utf8.Subparts

/-! What can be told from a command line. As it is displayed, it is the directory's text with the
profile's behind it. As it is run, it comes apart at its last two spaces: the flags and the jar have
none, so what the directory holds, spaces or a command line of its own, is never taken for them. -/

namespace JarLauncher

/-- flags and jar are words; the path may have spaces -/
structure Profile.Spaceless (p : Profile) : Prop where
  flags : ' ' ∉ p.flags.toList
  jar : ' ' ∉ p.jar.toList

example : Profile.bundled.Spaceless ∧ Profile.windows.Spaceless :=
  ⟨⟨by decide, by decide⟩, by decide, by decide⟩

namespace Command

open Utf8

theorem display_ofDir (dir : Bytes) (p : Profile) :
    (ofDir dir p).display = lossy dir ++ p.text := by
  rw [display, ofDir_line, lossy_append_encode]

theorem display_eq_iff (a b : Bytes) (p : Profile) :
    (ofDir a p).display = (ofDir b p).display ↔ lossy a = lossy b := by
  rw [display_ofDir, display_ofDir, String.append_left_inj]

/-- A command is displayed as the directory's text, one character for each segment that the rule
cuts, with the profile's texts behind it as they are. So under one profile only directories of the
same text are displayed alike, and a directory is displayed like its own text. -/
theorem display_eq_dir_text (dir : Bytes) (p : Profile) :
    (∃ cut, (∀ other, Cuts dir other ↔ other = cut) ∧
      (ofDir dir p).display =
        String.ofList (cut.map Segment.char) ++ p.path ++ " " ++ p.flags ++ " " ++ p.jar) ∧
    (∀ other, (ofDir dir p).display = (ofDir other p).display ↔ lossy dir = lossy other) ∧
    (ofDir (encode (lossy dir)) p).display = (ofDir dir p).display := by
  refine ⟨⟨segments dir, fun _ => cuts_iff, ?_⟩, fun other => display_eq_iff dir other p, ?_⟩
  · rw [display_ofDir, Profile.text, lossy]
    simp only [String.append_assoc]
  · rw [display_eq_iff, lossy_encode]

/-! ### The line from the right -/

def space : UInt8 := 0x20

/-- the octets before the last space, and those behind it -/
def atLastSpace? : Bytes → Option (Bytes × Bytes)
  | [] => none
  | b :: bs =>
    match atLastSpace? bs with
    | some (front, tail) => some (b :: front, tail)
    | none => if b = space then some ([], bs) else none

/-- a line taken apart at its last two spaces -/
def parts? (line : Bytes) : Option (Bytes × Bytes × Bytes) :=
  (atLastSpace? line).bind fun (front, jar) =>
    (atLastSpace? front).map fun (path, flags) => (path, flags, jar)

theorem atLastSpace?_eq_none_iff {bs : Bytes} : atLastSpace? bs = none ↔ space ∉ bs := by
  induction bs with
  | nil => simp [atLastSpace?]
  | cons b bs ih =>
    rw [atLastSpace?]
    split
    next h => simp_all
    next h =>
      have hbs := ih.1 h
      simp [hbs, eq_comm]

theorem atLastSpace?_eq_some_iff {bs front tail : Bytes} :
    atLastSpace? bs = some (front, tail) ↔ bs = front ++ space :: tail ∧ space ∉ tail := by
  constructor
  · intro h
    induction bs generalizing front with
    | nil => cases h
    | cons b bs ih =>
      rw [atLastSpace?] at h
      split at h
      next front' tail' hbs =>
        cases h
        obtain ⟨rfl, htail⟩ := ih hbs
        exact ⟨rfl, htail⟩
      next hbs =>
        split at h
        next hb => cases h; exact ⟨by rw [hb]; rfl, atLastSpace?_eq_none_iff.1 hbs⟩
        next => cases h
  · rintro ⟨rfl, h⟩
    induction front with
    | nil => rw [List.nil_append, atLastSpace?, atLastSpace?_eq_none_iff.2 h]; rfl
    | cons b front ih => rw [List.cons_append, atLastSpace?, ih]

theorem parts?_eq_some_iff {line front flags jar : Bytes} :
    parts? line = some (front, flags, jar) ↔
      line = front ++ space :: flags ++ space :: jar ∧ space ∉ flags ∧ space ∉ jar := by
  rw [parts?, Option.bind_eq_some_iff]
  constructor
  · rintro ⟨⟨head, tail⟩, hline, hhead⟩
    obtain ⟨⟨path, middle⟩, hpath, heq⟩ := Option.map_eq_some_iff.1 hhead
    cases heq
    obtain ⟨rfl, hjar⟩ := atLastSpace?_eq_some_iff.1 hline
    obtain ⟨rfl, hflags⟩ := atLastSpace?_eq_some_iff.1 hpath
    exact ⟨rfl, hflags, hjar⟩
  · rintro ⟨rfl, hflags, hjar⟩
    refine ⟨(front ++ space :: flags, jar), atLastSpace?_eq_some_iff.2 ⟨rfl, hjar⟩, ?_⟩
    exact Option.map_eq_some_iff.2 ⟨(front, flags), atLastSpace?_eq_some_iff.2 ⟨rfl, hflags⟩, rfl⟩

theorem space_notMem_encode {s : String} (h : ' ' ∉ s.toList) : space ∉ encode s := by
  intro hmem
  have := (ofUInt8_mem_lossy_iff rfl).2 hmem
  rw [lossy_encode] at this
  exact h this

theorem line_ofDir (dir : Bytes) (p : Profile) :
    (ofDir dir p).line =
      dir ++ encode p.path ++ space :: encode p.flags ++ space :: encode p.jar := by
  have hspace : encode " " = [space] := by decide
  simp [Profile.text, hspace]

theorem parts?_ofDir (dir : Bytes) {p : Profile} (h : p.Spaceless) :
    parts? (ofDir dir p).line = some (dir ++ encode p.path, encode p.flags, encode p.jar) := by
  exact parts?_eq_some_iff.2
    ⟨line_ofDir dir p, space_notMem_encode h.flags, space_notMem_encode h.jar⟩

theorem line_eq_iff (a b : Bytes) {p q : Profile} (hp : p.Spaceless) (hq : q.Spaceless) :
    (ofDir a p).line = (ofDir b q).line ↔
      a ++ encode p.path = b ++ encode q.path ∧ p.flags = q.flags ∧ p.jar = q.jar := by
  constructor
  · intro h
    have hparts := (parts?_ofDir a hp).symm.trans ((congrArg parts? h).trans (parts?_ofDir b hq))
    simp only [Option.some.injEq, Prod.mk.injEq] at hparts
    exact ⟨hparts.1, encode_injective hparts.2.1, encode_injective hparts.2.2⟩
  · rintro ⟨hpath, hflags, hjar⟩
    rw [line_ofDir, line_ofDir, hpath, hflags, hjar]

theorem line_eq_iff_dir (a b : Bytes) (p : Profile) :
    (ofDir a p).line = (ofDir b p).line ↔ a = b := by
  rw [ofDir_line, ofDir_line, List.append_cancel_right_eq]

theorem ofDir_eq_iff (a b : Bytes) {p q : Profile} (hp : p.Spaceless) (hq : q.Spaceless) :
    ofDir a p = ofDir b q ↔ a = b ∧ p = q := by
  constructor
  · intro h
    obtain rfl : a = b := congrArg dir h
    obtain ⟨hpath, hflags, hjar⟩ := (line_eq_iff a a hp hq).1 (congrArg line h)
    have hpath := encode_injective (List.append_cancel_left hpath)
    refine ⟨rfl, ?_⟩
    calc
      p = ⟨p.path, p.flags, p.jar⟩ := rfl
      _ = ⟨q.path, q.flags, q.jar⟩ := by rw [hpath, hflags, hjar]
  · rintro ⟨rfl, rfl⟩
    rfl

/-- The last two spaces of a line are the ones that were put in front of the flags and the jar,
whatever the directory and the path hold. So equal lines have the same flags, the same jar and the
same octets before them; equal commands have the same directory and the same profile; and under one
profile, whatever its texts are, a line belongs to one directory. -/
theorem line_parts (a b : Bytes) {p q : Profile} (hp : p.Spaceless) (hq : q.Spaceless) :
    parts? (ofDir a p).line = some (a ++ encode p.path, encode p.flags, encode p.jar) ∧
    ((ofDir a p).line = (ofDir b q).line ↔
      a ++ encode p.path = b ++ encode q.path ∧ p.flags = q.flags ∧ p.jar = q.jar) ∧
    (ofDir a p = ofDir b q ↔ a = b ∧ p = q) ∧
    ∀ r, ((ofDir a r).line = (ofDir b r).line ↔ a = b) ∧ (ofDir a r = ofDir b r ↔ a = b) := by
  refine ⟨parts?_ofDir a hp, line_eq_iff a b hp hq, ofDir_eq_iff a b hp hq, fun r => ?_⟩
  refine ⟨line_eq_iff_dir a b r, fun h => congrArg dir h, ?_⟩
  rintro rfl
  rfl

/-- A path with spaces, and directories that hold spaces and whole command lines: the line of one
comes from the other too, cut at another place, but the commands differ. -/
theorem line_parts_of_spaces :
    let p : Profile := ⟨"/my jre", "-x", "a.jar"⟩
    let q : Profile := ⟨" jre", "-x", "a.jar"⟩
    let a := encode "/b -x a.jar -x a.jar"
    let b := encode "/b -x a.jar -x a.jar/my"
    p.Spaceless ∧ q.Spaceless ∧
      parts? (ofDir a p).line =
        some (encode "/b -x a.jar -x a.jar/my jre", encode "-x", encode "a.jar") ∧
      (ofDir a p).line = (ofDir b q).line ∧ ofDir a p ≠ ofDir b q := by
  intro p q a b
  have hp : p.Spaceless := ⟨by decide, by decide⟩
  have hq : q.Spaceless := ⟨by decide, by decide⟩
  obtain ⟨hparts, hline, hcommand, -⟩ := line_parts a b hp hq
  have hfront : a ++ encode p.path = b ++ encode q.path := by decide
  have hdir : a ≠ b := by decide
  refine ⟨hp, hq, hparts.trans ?_, hline.2 ⟨hfront, rfl, rfl⟩, fun h => hdir (hcommand.1 h).1⟩
  decide

end Command
end JarLauncher
