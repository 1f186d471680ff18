import JarLauncher.Tool.Input

/-! Questions that standard input answers. -/

namespace JarLauncher.Tool

open Unix
open Shell (text newline)

/-- an answer that agrees -/
def isYes (line : Bytes) : Bool := line.head? = some 121 || line.head? = some 89

/-- Ask, and see if the next line of standard input agrees. What was read behind it is put back, or
held where that cannot be. -/
def Work.agrees (question : List Bytes) : Work Bool := do
  Work.say ((← get).name :: text ": " :: question ++ [text "? "])
  match ← ({ fd := 0, held := (← get).answers } : Source).line newline with
  | .error _ | .ok (none, _) => return false
  | .ok (some l, s) =>
    let isFile ← Work.act (Act.ask fun p sys =>
      (sys.opened? p 0).any fun (_, o) => (sys.tree.content o.node).isFile)
    if isFile then s.putBack
    modify fun d => { d with answers := if isFile then ByteArray.empty else s.rest }
    return isYes l.octets

end JarLauncher.Tool
