import JarLauncher.Shell.Char

/-! The commands that the shell carries out itself. -/

namespace JarLauncher.Shell

/-- a command that the shell carries out itself -/
structure Own where
  name : String
  /-- a mistake in it ends the shell, and assignments before it last -/
  special : Bool := false
  /-- it is found before the path is looked at -/
  regular : Bool := false
  /-- its arguments may be assignments -/
  assigns : Bool := false

namespace Own

def specials : List Own :=
  [".", ":", "break", "continue", "eval", "exec", "exit", "return", "set", "shift", "times", "trap",
   "unset"].map fun n => { name := n, special := true, regular := true }

def declarations : List Own :=
  ["export", "local", "readonly"].map fun n =>
    { name := n, special := true, regular := true, assigns := true }

def regulars : List Own :=
  ["bg", "cd", "command", "false", "fg", "getopts", "hash", "jobs", "kill", "pwd", "read", "true",
   "type", "ulimit", "umask", "unalias", "wait"].map fun n => { name := n, regular := true }

def others : List Own :=
  ["[", "chdir", "echo", "printf", "test"].map fun n => { name := n }

def all : List Own :=
  specials ++ declarations ++ regulars ++ others ++
    [{ name := "alias", regular := true, assigns := true }]

/-- all of them by the octets of their names -/
def byName : List (Bytes × Own) := all.map fun o => (text o.name, o)

def ofName? (name : Bytes) : Option Own := byName.lookup name

end Own

end JarLauncher.Shell
