import JarLauncher.Tool.Work

/-! Where paths lead to: the path from the root, without links and dots; and paths from one
directory to another. -/

namespace JarLauncher.Tool

open Unix
open Shell (text)

/-- what has to be there of a path that is followed to its end -/
inductive Presence where
  | all
  | allButLast
  | nothing
  deriving DecidableEq

namespace Canonical

/-- the path from the root with these components -/
def pathOf (comps : List Bytes) : Bytes :=
  Path.slash :: (comps.intersperse [Path.slash]).flatten

/-- what stands behind a component asks for a directory -/
def asksForDir : List Bytes → Bool → Bool
  | [], slashed => slashed
  | c :: rest, slashed =>
    if c = Path.here then rest.isEmpty || asksForDir rest slashed else c = Path.up

/-- the components of what is there: is the one that was reached as it has to be? -/
def isAllowed (t : FileTree) (need : Presence) (follow : Bool) (path : Bytes) (rest : List Bytes)
    (slashed : Bool) : Option Int :=
  if need = .nothing then none
  else
    let answer : FileTree.Answer FileTree.Id :=
      if asksForDir rest slashed then
        match t.find FileTree.root path with
        | .ok n => if t.isDir n then .ok n else .error Errno.notDirectory
        | .error e => .error e
      else if follow then t.findLink FileTree.root path
      else if !rest.isEmpty then .ok FileTree.root
      else t.find FileTree.root path
    match answer with
    | .ok _ => none
    | .error e =>
      if need = .allButLast ∧ e = Errno.noEntry ∧ rest.isEmpty then none else some e

/-- Follow components, `done` those so far from the root. `links` bounds how many links are
followed, if any are. -/
def walk (t : FileTree) (need : Presence) (follow : Bool) (links : Nat) (done : List Bytes)
    (comps : List Bytes) (slashed : Bool) : FileTree.Answer (List Bytes) :=
  match comps with
  | [] => .ok done
  | c :: rest =>
    if c = Path.here then walk t need follow links done rest slashed
    else if c = Path.up then walk t need follow links done.dropLast rest slashed
    else
      let path := pathOf (done ++ [c])
      let target := match (t.findLink FileTree.root path).map t.content with
        | .ok (.link target) => if follow then some target else none
        | _ => none
      match target, links with
      | some target, links + 1 =>
        let from_ := if Path.isAbsolute target then [] else done
        walk t need follow links from_ ((Path.bare target).1 ++ rest)
          (slashed || (rest.isEmpty && (Path.bare target).2))
      | some _, 0 =>
        if need = .nothing then walk t need follow 0 (done ++ [c]) rest slashed
        else .error Errno.linkLoop
      | none, links =>
        match isAllowed t need follow path rest slashed with
        | some e => .error e
        | none => walk t need follow links (done ++ [c]) rest slashed
termination_by (links, comps.length)

/-- the components from the root that a path leads to, links followed or not -/
def componentsOf (need : Presence) (follow : Bool) (path : Bytes) :
    Work (FileTree.Answer (List Bytes)) :=
  Work.act (Act.ask fun p s => do
    if let some e := Path.fault? path then throw e
    let (comps, slashed) := Path.bare path
    let start ← if Path.isAbsolute path then pure [] else
      return ← walk s.tree need follow FileTree.maxLinks
        (Path.bare (← s.tree.pathOf (s.cwd p))).1 comps slashed
    walk s.tree need follow FileTree.maxLinks start comps slashed)

/-- the way from one directory to a path, both from the root -/
def relative : List Bytes → List Bytes → Bytes
  | d :: dir, c :: comps =>
    if d = c then relative dir comps
    else (((d :: dir).map fun _ => Path.up) ++ c :: comps).intersperse [Path.slash] |>.flatten
  | [], [] => Path.here
  | dir, comps => ((dir.map fun _ => Path.up) ++ comps).intersperse [Path.slash] |>.flatten

end Canonical

/-- the path from the root that a path leads to, links followed -/
def canonical (need : Presence) (path : Bytes) : Work (FileTree.Answer Bytes) := do
  return (← Canonical.componentsOf need true path).map Canonical.pathOf

end JarLauncher.Tool
