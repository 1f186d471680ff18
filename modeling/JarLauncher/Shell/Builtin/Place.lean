import JarLauncher.Shell.Builtin.Basic
import JarLauncher.Shell.Directory

/-! The commands about the working directory and about what new files may not be. -/

namespace JarLauncher.Shell.Builtin

open Unix

/-- whether directories are named as the system names them; the last such option counts -/
def isPhysical (o : Options) : Bool := (o.given.getLast?.map Prod.fst) = some 'P'

def cd : Builtin := fun args => do
  let o ← Options.take "LP" args
  let m ← get
  let (goal, told) := match o.operands with
    | [] => (m.valueOf "HOME", false)
    | [45] :: _ => (m.valueOf "OLDPWD", true)
    | d :: _ => (some d, false)
  let goal := goal.getD []
  let byName := !isPhysical o
  let done (told : Bool) : Sh Nat := do
    if told then Sh.put ((← get).dir ++ [newline])
    return 0
  let cannot (path : Bytes) : Sh Nat := Sh.fail [text "can't cd to ", path]
  if Directory.isDirect goal then
    if ← Directory.change byName goal then return ← done told
    return ← cannot goal
  let goal := if goal = [] then Path.here else goal
  let list := (m.valueOf "CDPATH").getD []
  let all := Directory.candidates list goal
  let isDir (path : Bytes) : Act Bool := Act.ask fun p s =>
    match s.find p path with
    | .ok n => s.tree.isDir n
    | .error _ => false
  let found ← all.findM? fun c => Sh.act (isDir c.1)
  let (path, here) := found.getD (goal, false)
  if ← Directory.change byName path then done (told || here) else cannot goal

def pwd : Builtin := fun args => do
  let o ← Options.take "LP" args
  let dir ← if isPhysical o then Directory.known else pure (← get).dir
  Sh.put (dir ++ [newline])
  return 0

/-- permissions as letters -/
def permissionLetters (n : Nat) : Bytes :=
  [(4, 'r'), (2, 'w'), (1, 'x')].flatMap fun (bit, c) =>
    if n &&& bit = 0 then [] else text (String.ofList [c])

/-- a change of permissions, as far as it was read -/
structure Symbolic where
  positions : Nat
  permissions : Nat

def isIn (letters : String) (b : UInt8) : Bool := letters.toList.contains (chr b)

/-- whom a change is about, by one bit each -/
def positionsOf (who : Bytes) (before : Nat) : Nat :=
  let n := who.foldl (fun n b =>
    n ||| match chr b with
      | 'u' => 0o100
      | 'g' => 0o010
      | 'o' => 0o001
      | _ => 0o111) before
  if n = 0 then 0o111 else n

/-- the permissions that letters name, where `now` are those of all -/
def permissionsOf (letters : Bytes) (now : Nat) : Nat :=
  (letters.foldl (fun n b =>
    n ||| match chr b with
      | 'r' => 4
      | 'w' => 2
      | 'x' => 1
      | 'u' => now >>> 6
      | 'g' => now >>> 3
      | 'o' => now
      | 'X' => if now &&& 0o111 = 0 then 0 else 1
      | _ => 0) 0) &&& 7

/-- permissions after the changes that a text describes; none if it is no such text -/
def changedFrom (now : Nat) : Nat → Symbolic → Bytes → Option Nat
  | 0, s, _ => some s.permissions
  | fuel + 1, s, bs =>
    let (who, rest) := bs.span (isIn "augo")
    let positions := positionsOf who s.positions
    match rest with
    | [] => if bs = [] then some s.permissions else none
    | op :: rest =>
      if !isIn "=+-" op then none
      else
        let (letters, rest) := rest.span (isIn "rwxugoXs")
        let bits := permissionsOf letters now * positions
        let clear (n bits : Nat) : Nat := n - (n &&& bits)
        let permissions := match chr op with
          | '-' => clear s.permissions bits
          | '=' => bits ||| clear s.permissions (positions * 7)
          | _ => s.permissions ||| bits
        match rest with
        | 44 :: rest => changedFrom now fuel ⟨0, permissions⟩ rest
        | [] => some permissions
        | c :: _ =>
          if isIn "=+-" c then changedFrom now fuel ⟨positions, permissions⟩ rest else none

def umask : Builtin := fun args => do
  let o ← Options.take "S" args
  let mask ← Sh.act (Act.ask fun p s => s.mask p)
  let set (n : Nat) : Sh Nat := do
    Sh.act (Act.modify fun p s => s.modify p fun x => { x with mask := n &&& 0o777 })
    return 0
  match o.operands with
  | [] =>
    if o.has 'S' then
      let n := 0o777 - mask
      Sh.put (text "u=" ++ permissionLetters (n >>> 6) ++ text ",g=" ++
        permissionLetters (n >>> 3) ++ text ",o=" ++ permissionLetters n ++ [newline])
    else
      let digits := Format.digitsIn 8 mask
      Sh.put (List.replicate (4 - digits.length) 48 ++ digits ++ [newline])
    return 0
  | mode :: _ =>
    if mode.head?.any isDigit then
      if !mode.all Format.isOctal then Sh.fail [text "Illegal number: ", mode]
      set (mode.foldl (fun (n : Nat) (b : UInt8) => n * 8 + (b.toNat - 48)) 0)
    else
      let now := 0o777 - mask
      match changedFrom now (mode.length + 1) ⟨0, now⟩ mode with
      | some n => set (0o777 - (n &&& 0o777))
      | none => Sh.fail [text "Illegal mode: ", mode]

end JarLauncher.Shell.Builtin
