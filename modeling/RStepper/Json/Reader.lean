import RStepper.Json.Value

/-!
Reading JSON. A value may hold values so many levels deep and no deeper; a whole number beyond 64
bits is read as a fraction; a string holds no bare control characters, and escaped halves of a
character beyond 16 bits come in pairs only.
-/

namespace RStepper.Json

def isSpace (c : Char) : Bool :=
  c == ' ' || c == '\n' || c == '\t' || c == '\r'

def skipSpace (text : List Char) : List Char :=
  text.dropWhile isSpace

/-- A piece of a string: a character, or a 16-bit unit given by its number. -/
inductive Piece where
  | char (c : Char)
  | unit (code : Nat)
  deriving DecidableEq, Repr

def hexValue? (c : Char) : Option Nat :=
  if '0' ≤ c ∧ c ≤ '9' then some (c.toNat - '0'.toNat)
  else if 'a' ≤ c ∧ c ≤ 'f' then some (c.toNat - 'a'.toNat + 10)
  else if 'A' ≤ c ∧ c ≤ 'F' then some (c.toNat - 'A'.toNat + 10)
  else none

/-- The number of four hexadecimal digits. -/
def unitCode? (a b c d : Char) : Option Nat := do
  let a ← hexValue? a
  let b ← hexValue? b
  let c ← hexValue? c
  let d ← hexValue? d
  return ((a * 16 + b) * 16 + c) * 16 + d

/-- The character that a letter behind a backslash stands for. -/
def escaped? (c : Char) : Option Char :=
  if c = '"' then some '"'
  else if c = '\\' then some '\\'
  else if c = '/' then some '/'
  else if c = 'b' then some '\x08'
  else if c = 'f' then some '\x0c'
  else if c = 'n' then some '\n'
  else if c = 'r' then some '\r'
  else if c = 't' then some '\t'
  else none

/-- The pieces of a string up to its closing quote, and the text behind it. -/
def readPieces : List Char → Option (List Piece × List Char)
  | [] => none
  | '"' :: rest => some ([], rest)
  | '\\' :: 'u' :: a :: b :: c :: d :: rest =>
    match unitCode? a b c d with
    | none => none
    | some code => (readPieces rest).map fun (pieces, behind) => (.unit code :: pieces, behind)
  | '\\' :: c :: rest =>
    match escaped? c with
    | none => none
    | some plain => (readPieces rest).map fun (pieces, behind) => (.char plain :: pieces, behind)
  | c :: rest =>
    if c.toNat < 0x20 ∨ c = '\\' then none
    else (readPieces rest).map fun (pieces, behind) => (.char c :: pieces, behind)

def isLeading (code : Nat) : Bool :=
  0xD800 ≤ code && code < 0xDC00

def isTrailing (code : Nat) : Bool :=
  0xDC00 ≤ code && code < 0xE000

/-- Puts the halves of characters together; nothing if one of them stands alone. -/
def joinPieces : List Piece → Option (List Char)
  | [] => some []
  | .char c :: rest => (joinPieces rest).map (c :: ·)
  | .unit first :: .unit second :: rest =>
    if isLeading first then
      if isTrailing second then
        (joinPieces rest).map
          (Char.ofNat (0x10000 + (first - 0xD800) * 0x400 + (second - 0xDC00)) :: ·)
      else none
    else if isTrailing first then none
    else (joinPieces (.unit second :: rest)).map (Char.ofNat first :: ·)
  | .unit code :: rest =>
    if isLeading code ∨ isTrailing code then none
    else (joinPieces rest).map (Char.ofNat code :: ·)

def readString (text : List Char) : Option (String × List Char) := do
  let (pieces, rest) ← readPieces text
  let chars ← joinPieces pieces
  return (String.ofList chars, rest)

/-- The digits at the start of a text, and what follows them. -/
def spanDigits (text : List Char) : List Char × List Char :=
  (text.takeWhile Char.isDigit, text.dropWhile Char.isDigit)

/-- Takes digits into a significand as long as it stays within 64 bits; the rest of them is given
back. -/
def accumulate (significand : Nat) : List Char → Nat × List Char
  | [] => (significand, [])
  | c :: rest =>
    let grown := significand * 10 + (c.toNat - '0'.toNat)
    if grown < Text.wordLimit then accumulate grown rest else (significand, c :: rest)

/-- The greatest exponent that is told apart from those beyond it. -/
def greatestExponent : Nat := 2147483647

/-- A fraction from its significand, its power of ten and the digits of its exponent. -/
def realOf (isNegative : Bool) (significand : Nat) (power : Int) (exponentNegative : Bool)
    (exponentDigits : List Char) : Option Json :=
  let exponent := Text.digitsValue exponentDigits
  if greatestExponent < exponent then
    if significand ≠ 0 ∧ !exponentNegative then none else some (.real (.zero isNegative))
  else
    let total := if exponentNegative then power - exponent else power + exponent
    (Double.ofDecimal? isNegative significand total).map .real

/-- The exponent behind a number, if there is one: its sign and its digits. -/
def readExponent (text : List Char) : Option (Bool × List Char × List Char) :=
  match text with
  | c :: rest =>
    if c = 'e' ∨ c = 'E' then
      let (negative, digits) := match rest with
        | '-' :: more => (true, more)
        | '+' :: more => (false, more)
        | more => (false, more)
      let (shown, behind) := spanDigits digits
      if shown.isEmpty then none else some (negative, shown, behind)
    else some (false, [], text)
  | [] => some (false, [], [])

def readNumber (isNegative : Bool) (text : List Char) : Option (Json × List Char) := do
  let (whole, rest) := spanDigits text
  if whole.isEmpty ∨ (whole.head? = some '0' ∧ whole.length ≠ 1) then none
  else
    let (significand, beyond) := accumulate 0 whole
    let (fraction, isFraction, rest) ← match rest with
      | '.' :: more =>
        let (digits, behind) := spanDigits more
        if digits.isEmpty then none else some (digits, true, behind)
      | rest => some ([], false, rest)
    let (negative, exponent, behind) ← readExponent rest
    if beyond.isEmpty ∧ !isFraction ∧ exponent.isEmpty then
      if !isNegative then return (.int significand, behind)
      else if significand ≠ 0 ∧ 2 * significand ≤ Text.wordLimit then return (.int (-significand), behind)
      else
        let value ← Double.ofDecimal? true significand 0
        return (.real value, behind)
    else
      let (all, dropped) := accumulate significand fraction
      let power : Int := (beyond.length : Int) - ((fraction.length - dropped.length : Nat) : Int)
      let value ← realOf isNegative all power negative exponent
      return (value, behind)

/-- What comes behind an item: the next one, or the end. -/
def readSeparator (closing : Char) (text : List Char) : Option (Bool × List Char) :=
  match skipSpace text with
  | c :: rest =>
    if c = ',' then some (true, rest)
    else if c = closing then some (false, rest)
    else none
  | [] => none

/-- The items of an array behind the opening bracket or a comma; `count` bounds their number. -/
def readItems (item : List Char → Option (Json × List Char)) :
    Nat → List Char → Option (List Json × List Char)
  | 0, _ => none
  | count + 1, text => do
    let (value, rest) ← item text
    let (more, rest) ← readSeparator ']' rest
    if more then
      let (values, rest) ← readItems item count rest
      return (value :: values, rest)
    else return ([value], rest)

/-- The key of a field, with its colon. -/
def readKey (text : List Char) : Option (String × List Char) :=
  match skipSpace text with
  | '"' :: rest => do
    let (key, rest) ← readString rest
    match skipSpace rest with
    | ':' :: behind => return (key, behind)
    | _ => none
  | _ => none

/-- The fields of an object behind the opening brace or a comma; `count` bounds their number. -/
def readFields (item : List Char → Option (Json × List Char)) :
    Nat → List Char → Option (List (String × Json) × List Char)
  | 0, _ => none
  | count + 1, text => do
    let (key, rest) ← readKey text
    let (value, rest) ← item rest
    let (more, rest) ← readSeparator '\x7d' rest
    if more then
      let (fields, rest) ← readFields item count rest
      return ((key, value) :: fields, rest)
    else return ([(key, value)], rest)

/-- The text behind a word that it must start with. -/
def readWord (word : String) (value : Json) (text : List Char) : Option (Json × List Char) :=
  (Text.stripStart word text).map fun rest => (value, rest)

/-- A value that holds no other values. -/
def readScalar (text : List Char) : Option (Json × List Char) :=
  match text with
  | '"' :: rest => (readString rest).map fun (value, behind) => (.str value, behind)
  | '-' :: rest => readNumber true rest
  | 'n' :: _ => readWord "null" .null text
  | 't' :: _ => readWord "true" (.bool true) text
  | 'f' :: _ => readWord "false" (.bool false) text
  | _ => readNumber false text

/-- A value that holds values at most so many levels deep. -/
def readValue : Nat → List Char → Option (Json × List Char)
  | 0, text =>
    match skipSpace text with
    | '[' :: _ => none
    | '\x7b' :: _ => none
    | start => readScalar start
  | levels + 1, text =>
    match skipSpace text with
    | '[' :: rest =>
      match skipSpace rest with
      | ']' :: behind => some (.arr [], behind)
      | start => (readItems (readValue levels) start.length start).map fun (items, behind) =>
          (.arr items, behind)
    | '\x7b' :: rest =>
      match skipSpace rest with
      | '\x7d' :: behind => some (.obj [], behind)
      | start => (readFields (readValue levels) start.length start).map fun (fields, behind) =>
          (.obj fields, behind)
    | start => readScalar start

/-- The deepest nesting of a text that is read at all. -/
def deepest : Nat := 127

/-- The value of a text that holds nothing else, with its fields as they were given. -/
def readWithin (levels : Nat) (text : List Char) : Option Json := do
  let (value, rest) ← readValue levels text
  if (skipSpace rest).isEmpty then return value else none

def read (text : List Char) : Option Json :=
  readWithin deepest text

end RStepper.Json
