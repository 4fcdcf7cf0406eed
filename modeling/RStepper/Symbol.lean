import RStepper.Text.Blank
import RStepper.Text.Lines

/-!
Names of the debugged program: how a command refers to one, and how a printed vector lists them.
-/

namespace RStepper.Symbol
open Text

def isLetter (c : Char) : Bool :=
  ('a' ≤ c && c ≤ 'z') || ('A' ≤ c && c ≤ 'Z')

def isNameChar (c : Char) : Bool :=
  isLetter c || c.isDigit || c == '.' || c == '_'

/-- A name can stand bare if it begins with a letter, or with a dot that no digit follows, and goes
on in letters, digits, dots and underscores. -/
def isBare (name : List Char) : Bool :=
  (match name with
    | [] => false
    | '.' :: rest => !rest.head?.any Char.isDigit
    | c :: _ => isLetter c) && name.all isNameChar

def backquote : Char := '\x60'

/-- A backquote inside backquotes is escaped; nothing else is. -/
def escapeBackquotes (name : List Char) : List Char :=
  name.flatMap fun c => if c = backquote then ['\\', backquote] else [c]

/-- The name as a command writes it. -/
def quoted (name : String) : String :=
  if isBare name.toList then name
  else String.ofList (backquote :: escapeBackquotes name.toList ++ [backquote])

/-- The texts between the first and second double quote, the third and fourth, and so on: `inside`
holds the characters since an opening quote, last first. -/
def quotedTexts : Option (List Char) → List Char → List (List Char)
  | _, [] => []
  | none, c :: rest => quotedTexts (if c = '"' then some [] else none) rest
  | some inside, c :: rest =>
    if c = '"' then inside.reverse :: quotedTexts none rest
    else quotedTexts (some (c :: inside)) rest

/-- A row of a printed vector starts with the index of its first element. -/
def isVectorRow (line : Line) : Bool :=
  startsWith "[" (trimStart line)

/-- The strings of a printed character vector. -/
def listed (listing : String) : List String :=
  (((lines listing.toList).filter isVectorRow).flatMap (quotedTexts none)).map String.ofList

end RStepper.Symbol
