import RStepper.Response.Marker
import RStepper.Text.Blank
import RStepper.Text.Number

/-!
Reading positions out of the console's announcements of the current line. An announcement starts at
its marker and runs to the end of the text, since the statement it shows may take several lines.
-/

namespace RStepper.Position
open Text Marker

/-- The text from the first of some segments that announces the current line. -/
def announcementIn (pieces : List Line) : Option (List Char) :=
  match pieces.dropWhile (!isCurrentLine ·) with
  | [] => none
  | found => some found.flatten

/-- The first announcement in a text. -/
def announcement? (text : List Char) : Option (List Char) :=
  announcementIn (segments text)

/-- The first announcement behind the last return line of a text. -/
def announcementAfterReturns? (text : List Char) : Option (List Char) :=
  announcementIn ((segments text).reverse.takeWhile (!isReturning ·)).reverse

/-- The line number that an announcement begins with, if it is in range. -/
def lineNumber? (announcement : List Char) : Option Int :=
  ((stripStart sourceLineMark announcement).or (stripStart plainLineMark announcement)).bind
    fun rest => readInt? 0 highestLine (rest.takeWhile Char.isDigit)

/-- The words that open a loop. -/
def loopWords : List String := ["for", "while", "repeat"]

def opensLoop (statement : List Char) : Bool :=
  loopWords.any fun word =>
    (stripStart word statement).any fun rest =>
      rest.head?.any fun c => c == ' ' || c == '(' || c == '\x7b'

/-- The announced statement is the head of a loop with a braced body. -/
def isLoopHeader (announcement : List Char) : Bool :=
  (lines announcement).head?.any fun first =>
    (textAfter ": " first).any opensLoop && (trimEnd first).getLast? == some '\x7b'

end RStepper.Position
