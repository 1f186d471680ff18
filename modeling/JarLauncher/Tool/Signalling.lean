import JarLauncher.Shell.Arithmetic
import JarLauncher.Text.Floating
import JarLauncher.Tool.Option

/-! Signals by their names, and the tool that sends them. -/

namespace JarLauncher.Tool

open Unix
open Shell (text newline)

/-- the signal that an option of one letter or one word says, if it is one -/
def signalNamed? (value : Bytes) : Option Signal :=
  let value := value.map Text.Floating.upper
  let name := if (text "SIG").isPrefixOf value then value.drop 3 else value
  match Shell.natOf? name with
  | some n => if n ≤ 64 then some n else none
  | none => (Signal.names.find? fun x => text x.2 = name).map Prod.fst

def signalOption (value : Bytes) : Work Signal := do
  match signalNamed? value with
  | some s => return s
  | none => Work.misuse [Quoting.plain value, text ": invalid signal"]

/-- the signal to send, and to whom -/
def signalAndGoals : List Bytes → Option (Signal × List Bytes)
  | [] => none
  | first :: rest =>
    if first = text "-s" then
      match rest with
      | [] => none
      | name :: goals => (signalNamed? name).map (·, goals)
    else if first = text "--" then some (Signal.term, rest)
    else match first with
      | 45 :: name => (signalNamed? name).map (·, rest)
      | _ => some (Signal.term, first :: rest)

def kill : Routine := fun args => do
  if args.head? = some (text "-l") then
    match args.drop 1 with
    | [] => Signal.names.forM fun x => Work.putLine (text x.2)
    | names =>
      for name in names do
        match signalNamed? name with
        | none => Work.fail [text "unknown signal name ", name]
        | some s =>
          Work.putLine (if (Shell.natOf? name).isSome then text ((Signal.names.lookup s).getD "")
            else Shell.decimal s)
    return
  match signalAndGoals args with
  | none | some (_, []) => Work.fail [text "bad usage"]
  | some (sig, goals) =>
    for goal in goals do
      match Shell.Arithmetic.decimal? goal with
      | none => Work.fail [text "failed to parse argument: ", Quoting.plain goal]
      | some n =>
        if let some e ← Work.act (Act.kill n sig) then
          Work.warn [text "(", goal, text "): ", reason e]

end JarLauncher.Tool
