import JarLauncher.Interpreter
import JarLauncher.Proofs.Announcement
import JarLauncher.Proofs.Utf8.Segments

/-! The quoted form of octets in the log. It shows no control, it ends at its closing quote whatever
stands behind it, and it is read back as the octets that it was made of, whichever characters are
hidden. So the log tells the directory and the line of a launch apart from all others. -/

namespace JarLauncher

namespace Text.Quoted

open Utf8

/-! ### Reading -/

/-- the text up to the first quote that is not escaped, and what follows that quote -/
def untilQuote? : List Char → Option (List Char × List Char)
  | [] => none
  | '"' :: rest => some ([], rest)
  | '\\' :: c :: rest => (untilQuote? rest).map fun (body, rest) => ('\\' :: c :: body, rest)
  | c :: rest => (untilQuote? rest).map fun (body, rest) => (c :: body, rest)

/-- what the next character is read as -/
inductive Mode where
  | text
  | escape
  /-- a digit of an octet, with the value of the digit before it -/
  | octet (high : Option Nat)
  | brace
  /-- a digit of a code point, with the value of those before it -/
  | point (n : Nat)

/-- the character that a sign behind a backslash names -/
def named? (sign : Char) : Option Char :=
  if sign = '"' ∨ sign = '\\' then some sign
  else if sign = 't' then some '\t'
  else if sign = 'n' then some '\n'
  else if sign = 'r' then some '\r'
  else if sign = '0' then some '\x00'
  else none

/-- one character: the octets that it completes, and what comes next -/
def step : Mode → Char → Option (Bytes × Mode)
  | .text, c =>
    if c = '"' then none
    else if c = '\\' then some ([], .escape)
    else some (encodeChar c, .text)
  | .escape, c =>
    if c = 'x' then some ([], .octet none)
    else if c = 'u' then some ([], .brace)
    else (named? c).map fun c => (encodeChar c, .text)
  | .octet none, c => (hexValue? c).map fun high => ([], .octet (some high))
  | .octet (some high), c =>
    (hexValue? c).map fun low => ([UInt8.ofNat (16 * high + low)], .text)
  | .brace, c => if c = '\x7b' then some ([], .point 0) else none
  | .point n, c =>
    if c = '\x7d' then some (encodeChar (Char.ofNat n), .text)
    else (hexValue? c).map fun digit => ([], .point (16 * n + digit))

def octetsFrom? : Mode → List Char → Option Bytes
  | .text, [] => some []
  | _, [] => none
  | mode, c :: rest =>
    (step mode c).bind fun (done, next) => (octetsFrom? next rest).map (done ++ ·)

/-- the octets that a quoted form was made of -/
def unquote? (quoted : String) : Option Bytes :=
  match quoted.toList with
  | '"' :: rest =>
    match untilQuote? rest with
    | some (body, []) => octetsFrom? .text body
    | _ => none
  | _ => none

/-! ### What is written -/

/-- a character that neither hides nor means anything -/
abbrev IsPlain (c : Char) : Prop := isControl c = false ∧ c ≠ '"' ∧ c ≠ '\\'

/-- text without a control, each quote and backslash of which is escaped -/
inductive Escaped : List Char → Prop
  | nil : Escaped []
  | plain {c rest} (h : IsPlain c) (more : Escaped rest) : Escaped (c :: rest)
  | escape {sign rest} (h : isControl sign = false) (more : Escaped rest) :
      Escaped ('\\' :: sign :: rest)

namespace Escaped

theorem append {front rest : List Char} (hfront : Escaped front) (hrest : Escaped rest) :
    Escaped (front ++ rest) := by
  induction hfront with
  | nil => exact hrest
  | plain h _ ih => exact .plain h ih
  | escape h _ ih => exact .escape h ih

theorem of_plain {cs : List Char} (h : ∀ c ∈ cs, IsPlain c) : Escaped cs := by
  induction cs with
  | nil => exact .nil
  | cons c cs ih =>
    rw [List.forall_mem_cons] at h
    exact .plain h.1 (ih h.2)

theorem flatMap {α : Type} {l : List α} {f : α → List Char} (h : ∀ a ∈ l, Escaped (f a)) :
    Escaped (l.flatMap f) := by
  induction l with
  | nil => exact .nil
  | cons a l ih =>
    rw [List.forall_mem_cons] at h
    exact h.1.append (ih h.2)

theorem not_control {cs : List Char} (h : Escaped cs) : ∀ c ∈ cs, isControl c = false := by
  induction h with
  | nil => simp
  | plain h _ ih => exact List.forall_mem_cons.2 ⟨h.1, ih⟩
  | escape h _ ih => exact List.forall_mem_cons.2 ⟨by decide, List.forall_mem_cons.2 ⟨h, ih⟩⟩

/-- the first quote behind it that is not escaped is the one that closes it -/
theorem untilQuote?_append {body : List Char} (h : Escaped body) (rest : List Char) :
    untilQuote? (body ++ '"' :: rest) = some (body, rest) := by
  induction h with
  | nil => rfl
  | plain h _ ih =>
    obtain ⟨-, hquote, hslash⟩ := h
    rw [List.cons_append, untilQuote?, ih]
    · rfl
    · exact hquote
    · exact fun _ _ hc _ => hslash hc
  | escape _ _ ih => rw [List.cons_append, List.cons_append, untilQuote?, ih]; rfl

end Escaped

/-- the digits of a number are those of its sixteenth part, and one more -/
theorem digits_induction {P : Nat → List Char → Prop} (one : ∀ n < 16, P n [Nat.digitChar n])
    (more : ∀ n front, P (n / 16) front → P n (front ++ [Nat.digitChar (n % 16)])) (n : Nat) :
    P n (Nat.toDigits 16 n) := by
  induction n using Nat.strongRecOn with
  | ind n ih =>
    rw [Nat.toDigits_eq_if (by decide)]
    split
    next hn => exact one n hn
    next hn => exact more n _ (ih (n / 16) (by omega))

theorem exists_digit (n : Nat) : ∀ c ∈ Nat.toDigits 16 n, ∃ d < 16, c = Nat.digitChar d := by
  refine digits_induction (P := fun _ digits => ∀ c ∈ digits, ∃ d < 16, c = Nat.digitChar d) ?_ ?_ n
  · exact fun d hd => List.forall_mem_singleton.2 ⟨d, hd, rfl⟩
  · intro n front ih
    have hlast : n % 16 < 16 := by omega
    exact List.forall_mem_append.2 ⟨ih, List.forall_mem_singleton.2 ⟨n % 16, hlast, rfl⟩⟩

theorem digit_ne_brace : ∀ d < 16, Nat.digitChar d ≠ '\x7d' := by
  decide

theorem isPlain_digit : ∀ d < 16,
    IsPlain (Nat.digitChar d) ∧ IsPlain (Nat.digitChar d).toUpper := by
  decide

theorem hexValue?_digit : ∀ d < 16,
    hexValue? (Nat.digitChar d) = some d ∧ hexValue? (Nat.digitChar d).toUpper = some d := by
  decide

/-- what is written for a character: a sign that names it, its code point, or itself -/
theorem escapeChar_cases (invisible : Char → Bool) (c : Char) :
    (∃ sign, named? sign = some c ∧ isControl sign = false ∧ sign ≠ 'x' ∧ sign ≠ 'u' ∧
      escapeChar invisible c = ['\\', sign]) ∨
    escapeChar invisible c = '\\' :: 'u' :: '\x7b' :: Nat.toDigits 16 c.toNat ++ ['\x7d'] ∨
    IsPlain c ∧ escapeChar invisible c = [c] := by
  unfold escapeChar
  split
  next h => exact .inl ⟨'"', by rw [h]; decide⟩
  split
  next h => exact .inl ⟨'\\', by rw [h]; decide⟩
  split
  next h => exact .inl ⟨'t', by rw [h]; decide⟩
  split
  next h => exact .inl ⟨'n', by rw [h]; decide⟩
  split
  next h => exact .inl ⟨'r', by rw [h]; decide⟩
  split
  next h => exact .inl ⟨'0', by rw [h]; decide⟩
  split
  next => exact .inr (.inl rfl)
  next hquote hslash _ _ _ _ hhidden =>
    simp only [Bool.or_eq_true, not_or, Bool.not_eq_true] at hhidden
    exact .inr (.inr ⟨⟨hhidden.1, hquote, hslash⟩, rfl⟩)

theorem escaped_escapeChar (invisible : Char → Bool) (c : Char) :
    Escaped (escapeChar invisible c) := by
  rcases escapeChar_cases invisible c with ⟨sign, -, hsign, -, -, h⟩ | h | ⟨hplain, h⟩ <;> rw [h]
  · exact .escape hsign .nil
  · refine .escape (by decide) (.plain (by decide) (.append (.of_plain fun d hd => ?_) ?_))
    · obtain ⟨n, hn, rfl⟩ := exists_digit _ d hd
      exact (isPlain_digit n hn).1
    · exact .plain (by decide) .nil
  · exact .plain hplain .nil

/-- an octet is written in two digits -/
theorem octet_halves (b : UInt8) : b.toNat / 16 < 16 ∧ b.toNat % 16 < 16 := by
  have := b.toNat_lt
  omega

theorem escaped_octet (b : UInt8) : Escaped ('\\' :: 'x' :: octetDigits b) := by
  obtain ⟨hhigh, hlow⟩ := octet_halves b
  exact .escape (by decide)
    (.plain (isPlain_digit _ hhigh).2 (.plain (isPlain_digit _ hlow).2 .nil))

theorem escaped_escapeSegment (invisible : Char → Bool) (segment : Segment) :
    Escaped (escapeSegment invisible segment) := by
  cases segment with
  | scalar c => exact escaped_escapeChar invisible c
  | broken octets => exact .flatMap fun b _ => escaped_octet b

/-- what stands between the quotes -/
def body (invisible : Char → Bool) (bs : Bytes) : List Char :=
  (segments bs).flatMap (escapeSegment invisible)

theorem escaped_body (invisible : Char → Bool) (bs : Bytes) : Escaped (body invisible bs) :=
  .flatMap fun segment _ => escaped_escapeSegment invisible segment

theorem toList_quoteHiding (invisible : Char → Bool) (bs : Bytes) :
    (quoteHiding invisible bs).toList = '"' :: body invisible bs ++ ['"'] := by
  simp [quoteHiding, body]

/-! ### Reading back -/

theorem octetsFrom?_cons (mode : Mode) (c : Char) (rest : List Char) :
    octetsFrom? mode (c :: rest) =
      (step mode c).bind fun (done, next) => (octetsFrom? next rest).map (done ++ ·) := by
  cases mode <;> rfl

theorem octetsFrom?_digit (m : Nat) {d : Nat} (hd : d < 16) (rest : List Char) :
    octetsFrom? (.point m) (Nat.digitChar d :: rest) = octetsFrom? (.point (16 * m + d)) rest := by
  rw [octetsFrom?_cons, step, if_neg (digit_ne_brace d hd), (hexValue?_digit d hd).1]
  simp

theorem octetsFrom?_digits (n : Nat) (rest : List Char) :
    octetsFrom? (.point 0) (Nat.toDigits 16 n ++ rest) = octetsFrom? (.point n) rest := by
  refine digits_induction (P := fun n digits => ∀ rest,
    octetsFrom? (.point 0) (digits ++ rest) = octetsFrom? (.point n) rest) ?_ ?_ n rest
  · intro d hd rest
    rw [List.singleton_append, octetsFrom?_digit 0 hd, Nat.mul_zero, Nat.zero_add]
  · intro n front ih rest
    rw [List.append_assoc, ih, List.singleton_append, octetsFrom?_digit _ (by omega),
      Nat.div_add_mod]

theorem octetsFrom?_escapeChar (invisible : Char → Bool) (c : Char) (rest : List Char) :
    octetsFrom? .text (escapeChar invisible c ++ rest) =
      (octetsFrom? .text rest).map (encodeChar c ++ ·) := by
  rcases escapeChar_cases invisible c with
    ⟨sign, hname, -, hx, hu, h⟩ | h | ⟨⟨-, hquote, hslash⟩, h⟩ <;> rw [h]
  · simp [octetsFrom?_cons, step, hx, hu, hname, Function.comp_def]
  · simp [octetsFrom?_cons, step, octetsFrom?_digits, Char.ofNat_toNat, Function.comp_def]
  · simp [octetsFrom?_cons, step, hquote, hslash]

theorem octetsFrom?_octet (b : UInt8) (rest : List Char) :
    octetsFrom? .text ('\\' :: 'x' :: octetDigits b ++ rest) =
      (octetsFrom? .text rest).map (b :: ·) := by
  obtain ⟨hhigh, hlow⟩ := octet_halves b
  have hvalue : UInt8.ofNat (16 * (b.toNat / 16) + b.toNat % 16) = b := by
    rw [Nat.div_add_mod, UInt8.ofNat_toNat]
  -- the value must stay in one piece for `hvalue`
  simp [-UInt8.ofNat_add, -UInt8.ofNat_mul, octetsFrom?_cons, step, octetDigits,
    (hexValue?_digit _ hhigh).2, (hexValue?_digit _ hlow).2, hvalue, Function.comp_def]

theorem octetsFrom?_octets (octets : Bytes) (rest : List Char) :
    octetsFrom? .text ((octets.flatMap fun b => '\\' :: 'x' :: octetDigits b) ++ rest) =
      (octetsFrom? .text rest).map (octets ++ ·) := by
  induction octets with
  | nil => simp
  | cons b octets ih =>
    rw [List.flatMap_cons, List.append_assoc, octetsFrom?_octet, ih, Option.map_map]
    rfl

theorem octetsFrom?_escapeSegment (invisible : Char → Bool) (segment : Segment)
    (rest : List Char) :
    octetsFrom? .text (escapeSegment invisible segment ++ rest) =
      (octetsFrom? .text rest).map (segment.octets ++ ·) := by
  cases segment with
  | scalar c => exact octetsFrom?_escapeChar invisible c rest
  | broken octets => exact octetsFrom?_octets octets rest

theorem octetsFrom?_flatMap (invisible : Char → Bool) (cut : List Segment) :
    octetsFrom? .text (cut.flatMap (escapeSegment invisible)) =
      some (cut.flatMap Segment.octets) := by
  induction cut with
  | nil => rfl
  | cons segment cut ih =>
    rw [List.flatMap_cons, octetsFrom?_escapeSegment, ih]
    rfl

/-- The quoted form is read back without knowing which characters were hidden. -/
theorem unquote?_quoteHiding (invisible : Char → Bool) (bs : Bytes) :
    unquote? (quoteHiding invisible bs) = some bs := by
  have hbody : octetsFrom? .text (body invisible bs) = some bs := by
    rw [body, octetsFrom?_flatMap, octets_segments]
  rw [unquote?, toList_quoteHiding, List.cons_append]
  simp only [(escaped_body invisible bs).untilQuote?_append, hbody]

theorem quoteHiding_injective {invisible : Char → Bool} {a b : Bytes}
    (h : quoteHiding invisible a = quoteHiding invisible b) : a = b := by
  have hread := congrArg unquote? h
  rw [unquote?_quoteHiding, unquote?_quoteHiding] at hread
  exact Option.some.inj hread

theorem isControl_eq_false_iff {c : Char} :
    isControl c = false ↔ 0x20 ≤ c.toNat ∧ (c.toNat < 0x7F ∨ 0x9F < c.toNat) := by
  simp only [isControl, Bool.or_eq_false_iff, Bool.and_eq_false_iff, decide_eq_false_iff_not]
  omega

theorem quoteHiding_not_control (invisible : Char → Bool) (bs : Bytes) :
    ∀ c ∈ (quoteHiding invisible bs).toList, isControl c = false := by
  rw [toList_quoteHiding, List.cons_append, List.forall_mem_cons, List.forall_mem_append]
  have hquote : isControl '"' = false := by decide
  exact ⟨hquote, (escaped_body invisible bs).not_control, List.forall_mem_singleton.2 hquote⟩

/-- text that shows octets on one line of a log, and shows no others -/
structure Quotes (text : String) (bs : Bytes) : Prop where
  /-- no control stands in it -/
  visible : ∀ c ∈ text.toList, 0x20 ≤ c.toNat ∧ (c.toNat < 0x7F ∨ 0x9F < c.toNat)
  /-- no quote inside is left unescaped, so it ends at its own whatever comes next -/
  closed : ∃ inside, text.toList = '"' :: inside ++ ['"'] ∧
    ∀ rest, untilQuote? (inside ++ '"' :: rest) = some (inside, rest)
  read : unquote? text = some bs

theorem quotes_quoteHiding (invisible : Char → Bool) (bs : Bytes) :
    Quotes (quoteHiding invisible bs) bs where
  visible c hc := isControl_eq_false_iff.1 (quoteHiding_not_control invisible bs c hc)
  closed := ⟨body invisible bs, toList_quoteHiding invisible bs,
    (escaped_body invisible bs).untilQuote?_append⟩
  read := unquote?_quoteHiding invisible bs

theorem quotes_quote (bs : Bytes) : Quotes (quote bs) bs := quotes_quoteHiding isHidden bs

end Text.Quoted

/-! ### In the log of a launch -/

namespace Launch

open Text.Quoted

variable {σ : Type}

/-- what the lines of a log show under a name -/
def values (name : String) (log : List Log.Event) : List String :=
  log.flatMap fun e => (e.lineFields.filter fun field => field.1 = name).map Prod.snd

theorem values_append (name : String) (a b : List Log.Event) :
    values name (a ++ b) = values name a ++ values name b := List.flatMap_append

/-- octets are shown only by the directory's warning and by what the interpreter logs itself -/
theorem values_interpreter (around : Surroundings (Dispositions × σ)) (spawner : Spawner σ)
    (profile : Profile) (s : Dispositions × σ) {name : String}
    (h : name ∉ ["error", "shell", "exit_code"]) :
    values name (execute { around with shell := Interpreter.runner spawner } profile s).log =
      values name (quotingEvents (command around profile s)) ++
        values name [.spawning Interpreter.program (command around profile s).line] := by
  simp only [List.mem_cons, List.not_mem_nil, or_false, not_or, ← ne_eq] at h
  obtain ⟨herror, hshell, hcode⟩ := h
  have hmissing (found : Except LaunchError Bytes) : values name (resolve found).2 = [] := by
    cases found <;> simp [values, resolve, Log.Event.lineFields, Log.Event.fields, herror.symm]
  have hconsole (failure : Option IoError) : values name (consoleEvents failure) = [] := by
    cases failure <;>
      simp [values, consoleEvents, Log.Event.lineFields, Log.Event.fields, herror.symm]
  have hexit (outcome : Except LaunchError Outcome) :
      values name (exitEvents Interpreter.program outcome) = [] := by
    cases outcome <;>
      simp [values, exitEvents, Log.Event.lineFields, Log.Event.fields, hshell.symm, hcode.symm]
  obtain ⟨failure, outcome, hlog⟩ : ∃ failure outcome,
      (execute { around with shell := Interpreter.runner spawner } profile s).log =
        (resolve (around.currentDir s)).2 ++ quotingEvents (command around profile s) ++
          consoleEvents failure ++
          [.spawning Interpreter.program (command around profile s).line] ++
          exitEvents Interpreter.program outcome := ⟨_, _, rfl⟩
  rw [hlog]
  simp only [values_append, hmissing, hconsole, hexit, List.nil_append, List.append_nil]

theorem values_command (around : Surroundings (Dispositions × σ)) (spawner : Spawner σ)
    (profile : Profile) (s : Dispositions × σ) :
    values "command" (execute { around with shell := Interpreter.runner spawner } profile s).log =
      [quote (command around profile s).line] := by
  rw [values_interpreter around spawner profile s (by decide), quotingEvents]
  split <;> simp [values, Log.Event.lineFields, Log.Event.fields]

theorem values_working_dir (around : Surroundings (Dispositions × σ)) (spawner : Spawner σ)
    (profile : Profile) (s : Dispositions × σ) :
    values "working_dir"
        (execute { around with shell := Interpreter.runner spawner } profile s).log =
      if (command around profile s).needsQuoting then [quote (command around profile s).dir]
      else [] := by
  rw [values_interpreter around spawner profile s (by decide), quotingEvents]
  split <;> simp [values, Log.Event.lineFields, Log.Event.fields]

/-- Whatever a directory is called, and whichever characters are hidden beside the controls, its
quoted form has no control, ends at its own closing quote, and is read back as the same octets. The
log of a launch shows its line in such a form, and its directory where that is warned about. So
launches whose logs show the same line ran the same octets, and launches that are warned about in
the same words had the same directory, also where both are displayed alike. -/
theorem logged_fields_identify {τ : Type} (invisible : Char → Bool) (bs : Bytes)
    (around : Surroundings (Dispositions × σ)) (spawner : Spawner σ) (profile : Profile)
    (s : Dispositions × σ) (around' : Surroundings (Dispositions × τ)) (spawner' : Spawner τ)
    (profile' : Profile) (s' : Dispositions × τ) :
    let quoted := quoteHiding invisible bs
    let c := command around profile s
    let c' := command around' profile' s'
    let log := (execute { around with shell := Interpreter.runner spawner } profile s).log
    let log' := (execute { around' with shell := Interpreter.runner spawner' } profile' s').log
    Quotes quoted bs ∧
    (∀ other, quoteHiding invisible other = quoted ↔ other = bs) ∧
    values "command" log = [quote c.line] ∧
    values "working_dir" log = (if c.needsQuoting then [quote c.dir] else []) ∧
    (∀ field ∈ values "command" log, Quotes field c.line) ∧
    (∀ field ∈ values "working_dir" log, Quotes field c.dir) ∧
    (values "command" log = values "command" log' ↔ c.line = c'.line) ∧
    ∀ field ∈ values "working_dir" log, field ∈ values "working_dir" log' → c.dir = c'.dir := by
  intro quoted c c' log log'
  have hcommand : values "command" log = [quote c.line] := values_command around spawner profile s
  have hcommand' : values "command" log' = [quote c'.line] :=
    values_command around' spawner' profile' s'
  have hdir : values "working_dir" log = if c.needsQuoting then [quote c.dir] else [] :=
    values_working_dir around spawner profile s
  have hdir' : values "working_dir" log' = if c'.needsQuoting then [quote c'.dir] else [] :=
    values_working_dir around' spawner' profile' s'
  refine ⟨quotes_quoteHiding invisible bs,
    fun other => ⟨quoteHiding_injective, fun h => by rw [h]⟩, hcommand, hdir, ?_, ?_, ?_, ?_⟩
  · rw [hcommand]
    exact List.forall_mem_singleton.2 (quotes_quote c.line)
  · intro field h
    rw [hdir, List.mem_ite_nil_right, List.mem_singleton] at h
    rw [h.2]
    exact quotes_quote c.dir
  · rw [hcommand, hcommand']
    exact ⟨fun h => quoteHiding_injective (List.singleton_inj.1 h), fun h => by rw [h]⟩
  · intro field h h'
    rw [hdir, List.mem_ite_nil_right, List.mem_singleton] at h
    rw [hdir', List.mem_ite_nil_right, List.mem_singleton] at h'
    exact quoteHiding_injective (h.2.symm.trans h'.2)

/-- Two directories that are shown alike, and one that is called what the log writes of another. -/
example :
    Utf8.lossy [0x2F, 0xFE] = Utf8.lossy [0x2F, 0xFF] ∧
      quote [0x2F, 0xFE] = "\"/\\xFE\"" ∧ quote [0x2F, 0xFF] = "\"/\\xFF\"" ∧
      quote (Utf8.encode "/\\xFF") = "\"/\\\\xFF\"" := by decide +kernel

end Launch
end JarLauncher
