import RStepper.Text.Blank
import RStepper.Text.Lines

/-!
What the interpreter's diagnostic text says: whether an evaluation failed, and which package could
not be found.
-/

namespace RStepper.Diagnostics
open Text

/-- The first line that, after any blanks, reports an error; without those blanks. -/
def runtimeError (diagnostics : String) : Option String :=
  (((lines diagnostics.toList).map trimStart).find? (startsWith "Error")).map String.ofList

def missingPackageMark : String := "there is no package called "

def isOpeningQuote (c : Char) : Bool :=
  c == '‘' || c == '\'' || c == '"'

def isClosingQuote (c : Char) : Bool :=
  c == '’' || c == '\'' || c == '"'

/-- The name of the package that a diagnostic text reports as missing. -/
def failedImport (diagnostics : String) : Option String :=
  (textAfter missingPackageMark diagnostics.toList).bind fun after =>
    let quoted := after.dropWhile isOpeningQuote
    if quoted.any isClosingQuote then some (String.ofList (quoted.takeWhile (!isClosingQuote ·)))
    else none

end RStepper.Diagnostics
