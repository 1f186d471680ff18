import JarLauncher.Utf8

/-! What is launched: where the runtime lies below the working directory, the flags it gets and the
jar it runs. -/

namespace JarLauncher

structure Profile where
  path : String
  flags : String
  jar : String
  deriving DecidableEq, Repr

namespace Profile

def bundled : Profile := ⟨"/jre/bin/java", "--enable-preview", "sequencer.jar"⟩

def windows : Profile := { bundled with path := "\\jre\\bin\\java.exe" }

instance : Inhabited Profile := ⟨bundled⟩

/-- what follows the working directory on the command line -/
def text (p : Profile) : String := p.path ++ " " ++ p.flags ++ " " ++ p.jar

end Profile
end JarLauncher
