import JarLauncher.Utf8
import JarLauncher.Errno

/-! Paths as octet strings: their components, and what a name may be. -/

namespace JarLauncher.Path

def slash : UInt8 := 47

def dot : UInt8 := 46

def here : Bytes := [dot]

def up : Bytes := [dot, dot]

def isAbsolute (path : Bytes) : Bool := path.head? == some slash

/-- the parts of `bs` between the octets `sep` -/
def splitOn (sep : UInt8) (bs : Bytes) : List Bytes :=
  bs.foldr (fun b parts =>
    if b = sep then [] :: parts
    else match parts with
      | p :: ps => (b :: p) :: ps
      | [] => [[b]]) [[]]

/-- the components of a path; a slash at the end asks for the directory itself -/
def components (path : Bytes) : List Bytes :=
  let parts := (splitOn slash path).filter (· ≠ [])
  if path.getLast? = some slash then parts ++ [here] else parts

/-- the components without slashes at the end, and whether there were any -/
def bare (path : Bytes) : List Bytes × Bool :=
  ((splitOn slash path).filter (· ≠ []), path.getLast? = some slash)

def join (dir name : Bytes) : Bytes :=
  if dir.getLast? = some slash then dir ++ name else dir ++ slash :: name

/-- the longest name and the longest path -/
def maxName : Nat := 255

def maxPath : Nat := 4095

/-- what is wrong with a path as a whole -/
def fault? (path : Bytes) : Option Int :=
  if path = [] then some Errno.noEntry
  else if path.contains 0 then some Errno.invalid
  else if path.length > maxPath then some Errno.nameTooLong
  else none

end JarLauncher.Path
