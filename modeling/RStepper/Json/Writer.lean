import RStepper.Json.Value

/-!
JSON as text on one line, without blanks. Of the characters of a string only quotes, backslashes and
the controls of ASCII are escaped.
-/

namespace RStepper.Json

/-- A control character's number in four hexadecimal digits. -/
def controlCode (code : Nat) : List Char :=
  ['0', '0', (Nat.digitChar (code / 16)), (Nat.digitChar (code % 16))]

def escapeChar (c : Char) : List Char :=
  if c = '"' then ['\\', '"']
  else if c = '\\' then ['\\', '\\']
  else if c.toNat < 0x20 then
    if c = '\n' then ['\\', 'n']
    else if c = '\r' then ['\\', 'r']
    else if c = '\t' then ['\\', 't']
    else if c.toNat = 8 then ['\\', 'b']
    else if c.toNat = 12 then ['\\', 'f']
    else '\\' :: 'u' :: controlCode c.toNat
  else [c]

def writeString (text : String) : List Char :=
  '"' :: text.toList.flatMap escapeChar ++ ['"']

mutual
def write : Json → List Char
  | .null => "null".toList
  | .bool true => "true".toList
  | .bool false => "false".toList
  | .int value => (toString value).toList
  | .real value => value.render.toList
  | .str text => writeString text
  | .arr items => '[' :: writeItems true items
  | .obj fields => '\x7b' :: writeFields true fields

/-- The items of an array from the first on or from behind an item, and the closing bracket. -/
def writeItems (first : Bool) : List Json → List Char
  | [] => [']']
  | item :: rest => (if first then [] else [',']) ++ write item ++ writeItems false rest

/-- The fields of an object from the first on or from behind a field, and the closing brace. -/
def writeFields (first : Bool) : List (String × Json) → List Char
  | [] => ['\x7d']
  | (key, value) :: rest =>
    (if first then [] else [',']) ++ writeString key ++ ':' :: write value ++ writeFields false rest
end

end RStepper.Json
