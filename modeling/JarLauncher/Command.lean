import JarLauncher.Profile
import JarLauncher.Text.Blank

/-! The command line of a launch: the working directory's octets followed by the profile's text. It
is run octet for octet and displayed as text, with U+FFFD where the directory is not UTF-8. -/

namespace JarLauncher

structure Command where
  dir : Bytes
  line : Bytes
  deriving DecidableEq

namespace Command

def ofDir (dir : Bytes) (p : Profile) : Command := ⟨dir, dir ++ Utf8.encode p.text⟩

def display (c : Command) : String := Utf8.lossy c.line

/-- the characters, white space apart, at which a shell may split or expand a directory -/
def shellSensitive : List Char := "\"'`$&|;<>()^%!*?".toList

def isSensitive (c : Char) : Bool := Text.isBlank c || shellSensitive.contains c

def needsQuoting (c : Command) : Bool := (Utf8.lossy c.dir).toList.any isSensitive

@[simp] theorem ofDir_dir (dir : Bytes) (p : Profile) : (ofDir dir p).dir = dir := rfl

@[simp] theorem ofDir_line (dir : Bytes) (p : Profile) :
    (ofDir dir p).line = dir ++ Utf8.encode p.text := rfl

end Command
end JarLauncher
