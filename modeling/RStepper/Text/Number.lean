/-!
Reading whole numbers with a sign and a range, as lines, lengths and counters are written.
-/

namespace RStepper.Text

/-- The value of decimal digits, first digit leading. -/
def digitsValue (digits : List Char) : Nat :=
  digits.foldl (fun value c => value * 10 + (c.toNat - '0'.toNat)) 0

/-- A decimal number without a sign; at least one digit and nothing else. -/
def readDigits? (text : List Char) : Option Nat :=
  if text ≠ [] ∧ text.all Char.isDigit then some (digitsValue text) else none

/-- A decimal number with an optional sign, if it lies between two bounds. -/
def readInt? (lowest highest : Int) (text : List Char) : Option Int :=
  let number := match text with
    | '-' :: rest => (readDigits? rest).map (-Int.ofNat ·)
    | '+' :: rest => (readDigits? rest).map Int.ofNat
    | digits => (readDigits? digits).map Int.ofNat
  number.filter fun value => lowest ≤ value && value ≤ highest

/-- The range of line numbers. -/
def highestLine : Int := 2147483647

/-- A line number as a user types it. -/
def readLine? (text : List Char) : Option Int :=
  readInt? (-highestLine - 1) highestLine text

/-- The first number that takes more than 64 bits. -/
def wordLimit : Nat := 18446744073709551616

/-- A count of bytes; a plus sign is allowed. -/
def readCount? (text : List Char) : Option Nat :=
  let digits := match text with
    | '+' :: rest => rest
    | digits => digits
  (readDigits? digits).filter (· < wordLimit)

example : readLine? "+12".toList = some 12 ∧ readLine? "-3".toList = some (-3) := by decide

example : readLine? "2147483648".toList = none ∧ readLine? "-".toList = none := by decide

end RStepper.Text
