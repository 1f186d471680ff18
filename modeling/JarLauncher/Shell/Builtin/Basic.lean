import JarLauncher.Shell.Condition
import JarLauncher.Shell.Format
import JarLauncher.Shell.Search
import JarLauncher.Shell.Job

/-! What the shell's own commands have in common: their options, and what several of them show. -/

namespace JarLauncher.Shell

open Unix

/-- takes its arguments and answers a status -/
abbrev Builtin := List Bytes → Sh Nat

/-- the options at the front of a command's arguments, and the other arguments -/
structure Options where
  given : List (Char × Bytes)
  operands : List Bytes

namespace Options

def has (o : Options) (c : Char) : Bool := o.given.any fun x => x.1 = c

def value? (o : Options) (c : Char) : Option Bytes :=
  (o.given.reverse.find? fun x => x.1 = c).map Prod.snd

/-- Options from the letters of `word` and then from arguments. In `spec`, a colon stands behind a
letter that takes a value. -/
def from_ (spec : List Char) : Nat → Bytes → List Bytes → List (Char × Bytes) → Sh Options
  | 0, _, args, given => return ⟨given.reverse, args⟩
  | fuel + 1, word, args, given => do
    match word with
    | [] =>
      match args with
      | (45 :: b :: letters) :: rest =>
        if b = 45 ∧ letters = [] then return ⟨given.reverse, rest⟩
        from_ spec fuel (b :: letters) rest given
      | _ => return ⟨given.reverse, args⟩
    | b :: letters =>
      let c := chr b
      if c = ':' then Sh.fail [text "Illegal option -", [b]]
      match spec.dropWhile (· ≠ c) with
      | [] => Sh.fail [text "Illegal option -", [b]]
      | _ :: ':' :: _ =>
        match letters, args with
        | [], [] => Sh.fail [text "No arg for -", [b], text " option"]
        | [], a :: rest => from_ spec fuel [] rest ((c, a) :: given)
        | letters, args => from_ spec fuel [] args ((c, letters) :: given)
      | _ => from_ spec fuel letters args ((c, []) :: given)

def take (spec : String) (args : List Bytes) : Sh Options :=
  from_ spec.toList (args.foldl (fun n a => n + a.length + 1) 1) [] args []

end Options

namespace Builtin

/-- a command whose only arguments are operands -/
def operands (args : List Bytes) : Sh (List Bytes) := return (← Options.take "" args).operands

/-- the names of signals, as the shell lists them -/
def signalNames : List String :=
  ["EXIT", "HUP", "INT", "QUIT", "ILL", "TRAP", "ABRT", "BUS", "FPE", "KILL", "USR1", "SEGV",
   "USR2", "PIPE", "ALRM", "TERM", "16", "CHLD", "CONT", "STOP", "TSTP", "TTIN", "TTOU", "URG",
   "XCPU", "XFSZ", "VTALRM", "PROF", "WINCH", "IO", "PWR", "SYS", "32", "33", "RTMIN", "RTMIN+1",
   "RTMIN+2", "RTMIN+3", "RTMIN+4", "RTMIN+5", "RTMIN+6", "RTMIN+7", "RTMIN+8", "RTMIN+9",
   "RTMIN+10", "RTMIN+11", "RTMIN+12", "RTMIN+13", "RTMIN+14", "RTMIN+15", "RTMAX-14", "RTMAX-13",
   "RTMAX-12", "RTMAX-11", "RTMAX-10", "RTMAX-9", "RTMAX-8", "RTMAX-7", "RTMAX-6", "RTMAX-5",
   "RTMAX-4", "RTMAX-3", "RTMAX-2", "RTMAX-1", "RTMAX"]

def signalName (s : Signal) : Bytes := text (signalNames.getD s "")

/-- the signal that a number names -/
def signalOfNumber? (bs : Bytes) : Option Signal :=
  (natOf? bs).filter (· < signalNames.length)

def lower (b : UInt8) : UInt8 := if 65 ≤ b && b ≤ 90 then b + 32 else b

/-- the signal from `least` on that a number or a name names -/
def signalOf? (bs : Bytes) (least : Signal) : Option Signal :=
  match signalOfNumber? bs with
  | some s => some s
  | none =>
    let i := signalNames.findIdx? fun n => (text n).map lower = bs.map lower
    i.filter (least ≤ ·)

/-- the job that a text names -/
def jobOf (bs : Bytes) : Sh Job := do
  let jobs := (← get).jobs
  let noSuch {α : Type} : Sh α := Sh.fail [text "No such job: ", bs]
  let current : Sh Job := match jobs.head? with
    | some j => return j
    | none => Sh.fail [text "No current job"]
  match bs with
  | [37] | [37, 37] | [37, 43] => current
  | [37, 45] =>
    match jobs[1]? with
    | some j => return j
    | none => Sh.fail [text "No previous job"]
  | 37 :: rest =>
    match natOf? rest with
    | some n =>
      match jobs.find? fun j => j.number = n with
      | some j => return j
      | none => noSuch
    | none =>
      if rest = [63] then
        match jobs with
        | [] => noSuch
        | [j] => return j
        | _ => Sh.fail [bs, text ": ambiguous"]
      else noSuch
  | _ => noSuch

/-- what a condition asks of files -/
def files (p : Pid) (s : System) : Condition.Files where
  one c path :=
    match s.find p path (c ≠ 'h' && c ≠ 'L') with
    | .error _ => false
    | .ok n =>
      let node := s.tree.node n
      match c, node.content with
      | 'e', _ | 'r', _ | 'w', _ | 'O', _ | 'G', _ => true
      | 'f', .file _ | 'f', .program _ => true
      | 'd', .dir .. => true
      | 'h', .link _ | 'L', .link _ => true
      | 'p', .pipe .. => true
      | 'c', .device _ => true
      | 's', .file data => data.size ≠ 0
      | 's', .program _ | 's', .dir .. => true
      | 'x', .program _ | 'x', .dir .. => true
      | 'x', _ => node.mode &&& 0o111 ≠ 0
      | 'u', _ => node.mode &&& 0o4000 ≠ 0
      | 'g', _ => node.mode &&& 0o2000 ≠ 0
      | 'k', _ => node.mode &&& 0o1000 ≠ 0
      | _, _ => false
  two op a b :=
    match s.find p a, s.find p b with
    | .ok m, .ok n =>
      if op = "-nt" then (s.tree.node n).changed < (s.tree.node m).changed
      else if op = "-ot" then (s.tree.node m).changed < (s.tree.node n).changed
      else m = n
    | _, _ => false

end Builtin
end JarLauncher.Shell
