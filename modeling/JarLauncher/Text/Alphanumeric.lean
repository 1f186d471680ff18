import JarLauncher.Text.Alphabetic
import JarLauncher.Text.Numeric

/-! Letters and digits of all scripts. -/

namespace JarLauncher.Text

def isAlphanumeric (c : Char) : Bool := isAlphabetic c || isNumeric c

end JarLauncher.Text
