import JarLauncher.Tool.Place
import JarLauncher.Unix.Account

/-! Tools that give files to others. Everything here belongs to the one user that there is, so what
is left of them is what they complain of. -/

namespace JarLauncher.Tool

open Unix
open Shell (text)

structure Ownership where
  recursive : Bool := false
  quiet : Bool := false
  /-- links themselves are meant -/
  atLinks : Bool := false
  like : Option Bytes := none

namespace Ownership

def take (how : Ownership) (g : Given) : Work Ownership :=
  return match g.letter with
    | 'R' => { how with recursive := true }
    | 'f' => { how with quiet := true }
    | 'h' => { how with atLinks := true }
    | 'l' => { how with like := g.value }
    | _ => how

def menu : Menu :=
  { letters := "HLPRcfhv"
    words := [flag "recursive" 'R', flag "changes" 'c', flag "dereference" 'D',
      flag "no-dereference" 'h', valued "from" 'o', flag "no-preserve-root" 'N',
      flag "preserve-root" 'N', flag "quiet" 'f', flag "silent" 'f', valued "reference" 'l',
      flag "verbose" 'v'] }

def isUser (bs : Bytes) : Bool :=
  bs = [] || (Account.ofName? bs).isSome || (Shell.natOf? bs).isSome

def isGroup (bs : Bytes) : Bool :=
  bs = [] || (Shell.natOf? bs).isSome || Account.all.any fun a => text a.groupName = bs

/-- what is wrong with a user and a group that a colon stands between -/
def fault (bs : Bytes) : Option String :=
  let (user, group) := bs.span (· ≠ 58)
  if !isUser user then some "invalid user: "
  else if !isGroup (group.drop 1) then some "invalid group: "
  else none

/-- go through files that are to be given to somebody -/
def give (fault : Bytes → Option String) : Routine := fun args => do
  let (how, operands) ← Work.options menu args { : Ownership } take
  if operands.isEmpty then Work.missingOperand
  let owner := if how.like.isSome then none else operands.head?
  if operands.length = 1 && owner.isSome then
    Work.misuse [text "missing operand after ", Quoting.plain (operands.headD [])]
  if let some path := how.like then
    if let .error e ← Work.node? path then
      Work.fail [text "failed to get attributes of ", Quoting.always path, text ": ", reason e]
  if let some owner := owner then
    if let some words := fault owner then Work.fail [text words, Quoting.plain owner]
  for x in if owner.isSome then operands.drop 1 else operands do
    if let .error e ← Work.node? x (!how.atLinks) then
      Work.failed
      let words := if (← Work.node? x false).isOk then "cannot dereference " else "cannot access "
      if !how.quiet then
        Work.complain [text words, Quoting.always x, text ": ", reason e]

end Ownership

def chown : Routine := Ownership.give Ownership.fault

def chgrp : Routine :=
  Ownership.give fun bs => if Ownership.isGroup bs then none else some "invalid group: "

end JarLauncher.Tool
