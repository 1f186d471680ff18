import JarLauncher.Cli
import JarLauncher.Log.Filter

/-! A setup as launchers are usually built: arguments are taken from the first one on, or from behind
a `--`, and the setting is a list of directives. -/

namespace JarLauncher.Cli

def separator : Bytes := Utf8.encode "--"

/-- an argument that asks for an option by a name that is not text -/
def isUnreadable (arg : Bytes) : Bool :=
  separator.isPrefixOf arg &&
    (Utf8.decode? ((arg.drop separator.length).takeWhile (· ≠ 61))).isNone

/-- The arguments that count: all, or all after a `--` in front. With an unreadable first one they
cannot be read. -/
def arguments? (args : List Bytes) : Option (List Bytes) :=
  match args with
  | [] => some []
  | first :: rest =>
    if first = separator then some rest else if isUnreadable first then none else some args

/-- a setting that is not text is no filter -/
def directives (setting : Option Bytes) : Reading :=
  match setting.bind Utf8.decode? with
  | none => .invalid
  | some text =>
    match Log.Filter.parse text with
    | .ok filter => .filter filter.shows
    | .error .malformed => .invalid
    | .error .torn => .broken

def Setup.standard : Setup := ⟨arguments?, directives, true⟩

end JarLauncher.Cli
