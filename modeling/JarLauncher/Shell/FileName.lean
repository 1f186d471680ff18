import JarLauncher.Shell.Pattern
import JarLauncher.Unix.System

/-! Patterns of file names: each component with a sign in it is matched against the names in the
directories that the components before it name. -/

namespace JarLauncher.Shell.FileName

/-- whether a component that follows an opening bracket closes it -/
def closes : Pattern → Bool
  | [] => false
  | c :: rest =>
    if c = 92 then
      match rest with
      | d :: e :: more => d ≠ 47 && (e == 93 || closes (e :: more))
      | _ => false
    else if c = 47 then false
    else match rest with
      | [] => false
      | d :: _ => d == 93 || closes rest

def opensSet (p : Pattern) : Bool :=
  match p with
  | 33 :: rest => closes rest
  | rest => closes rest

/-- a pattern of paths, cut at the first component with a sign in it -/
structure Parts where
  before : Pattern
  component : Pattern
  /-- what follows the slash after the component, if there is one -/
  after : Option Pattern

/-- `before` and `component` are what was read of them, the last octet first. -/
def partsFrom (hasSign : Bool) (before component : List UInt8) : Pattern → Option Parts
  | [] => if hasSign then some ⟨before.reverse, component.reverse, none⟩ else none
  | b :: rest =>
    if b = 42 ∨ b = 63 then partsFrom true before (b :: component) rest
    else if b = 91 then partsFrom (hasSign || opensSet rest) before (b :: component) rest
    else
      match b, rest with
      | 92, c :: rest =>
        if c = 47 then
          if hasSign then some ⟨before.reverse, component.reverse, some rest⟩
          else partsFrom hasSign (47 :: (component ++ before)) [] rest
        else partsFrom hasSign before (c :: 92 :: component) rest
      | b, rest =>
        if b = 47 then
          if hasSign then some ⟨before.reverse, component.reverse, some rest⟩
          else partsFrom hasSign (47 :: (component ++ before)) [] rest
        else partsFrom hasSign before (b :: component) rest

/-- a pattern without signs as the text it stands for -/
def unescape : Pattern → Bytes
  | 92 :: b :: rest => b :: unescape rest
  | b :: rest => b :: unescape rest
  | [] => []

/-- the names in a directory, itself and the one above it too -/
def namesIn (s : Unix.System) (p : Unix.Pid) (dir : Bytes) : List Bytes :=
  match s.find p (if dir = [] then Path.here else dir) with
  | .ok n =>
    let canBeRead := (s.freeNumber p 0).toOption.isSome
    if canBeRead && s.tree.isDir n then
      Path.here :: Path.up :: (s.tree.entries n).map Prod.fst
    else []
  | .error _ => []

/-- whether there is something under a path, be it a link that leads nowhere -/
def exists_ (s : Unix.System) (p : Unix.Pid) (path : Bytes) : Bool :=
  match s.find p path false with
  | .ok _ => true
  | .error _ => false

/-- the paths that match, which all open with `dir`; `fuel` bounds their components -/
def matchesFrom (s : Unix.System) (p : Unix.Pid) : Nat → Bytes → Pattern → List Bytes
  | 0, _, _ => []
  | fuel + 1, dir, pattern =>
    match partsFrom false [] [] pattern with
    | none =>
      let path := dir ++ unescape pattern
      if dir ≠ [] && exists_ s p path then [path] else []
    | some parts =>
      let dir := dir ++ unescape parts.before
      let hidden := match parts.component with
        | 92 :: b :: _ | b :: _ => b == 46
        | [] => false
      (namesIn s p dir).flatMap fun name =>
        if (name.head? = some 46 && !hidden) || !Pattern.accepts parts.component name then []
        else match parts.after with
          | none => [dir ++ name]
          | some rest => matchesFrom s p fuel (dir ++ name ++ [47]) rest

def bytesLe : Bytes → Bytes → Bool
  | [], _ => true
  | _ :: _, [] => false
  | a :: as, b :: bs => if a = b then bytesLe as bs else a < b

/-- the paths that match a pattern, in order -/
def matching (s : Unix.System) (p : Unix.Pid) (pattern : Pattern) : List Bytes :=
  (matchesFrom s p (pattern.length + 1) [] pattern).mergeSort bytesLe

end JarLauncher.Shell.FileName
