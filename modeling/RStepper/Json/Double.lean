import RStepper.Text.Number

/-!
Fractions in JSON texts: the binary number of 64 bits that a decimal text stands for, and the
shortest decimal text that stands for it. All is done in exact arithmetic on `mantissa · 2^exponent`.
-/

namespace RStepper.Json

/-- A finite number of the binary 64-bit format: `mantissa · 2^exponent`, with a sign. -/
structure Double where
  isNegative : Bool
  mantissa : Nat
  exponent : Int
  deriving DecidableEq, Repr, Inhabited

namespace Double

def zero (isNegative : Bool) : Double :=
  ⟨isNegative, 0, 0⟩

/-- Numerator and denominator of `mantissa · 2^exponent`. -/
def ratio (mantissa : Nat) (exponent : Int) : Nat × Nat :=
  if 0 ≤ exponent then (mantissa * Nat.pow 2 exponent.toNat, 1)
  else (mantissa, Nat.pow 2 (-exponent).toNat)

/-- The first mantissa that takes more than 53 bits. -/
def mantissaLimit : Nat := 9007199254740992

/-- The least exponent of the format. -/
def leastExponent : Int := -1074

/-- A fraction in units of `2^exponent`, rounded to the nearest unit and on a tie to the even one. -/
def roundAt (numerator denominator : Nat) (exponent : Int) : Nat :=
  let above := if 0 ≤ exponent then numerator else numerator * Nat.pow 2 (-exponent).toNat
  let below := if 0 ≤ exponent then denominator * Nat.pow 2 exponent.toNat else denominator
  let whole := above / below
  let rest := 2 * (above % below)
  if below < rest ∨ (rest = below ∧ whole % 2 = 1) then whole + 1 else whole

/-- The mantissa and exponent nearest to a positive fraction, or nothing beyond the format's range. -/
def nearest? (numerator denominator : Nat) : Option (Nat × Int) :=
  let guess := (Nat.log2 numerator : Int) - (Nat.log2 denominator : Int) - 53
  let floorAt (exponent : Int) :=
    (if 0 ≤ exponent then numerator else numerator * Nat.pow 2 (-exponent).toNat) /
      (if 0 ≤ exponent then denominator * Nat.pow 2 exponent.toNat else denominator)
  let fitting := if floorAt guess < mantissaLimit then guess else guess + 1
  let exponent := max fitting leastExponent
  let rounded := roundAt numerator denominator exponent
  let (mantissa, exponent) :=
    if rounded = mantissaLimit then (mantissaLimit / 2, exponent + 1) else (rounded, exponent)
  if 971 < exponent then none else some (mantissa, exponent)

/-- The product of a number with the binary number nearest to a power of ten. -/
def timesPower? (number : Nat × Int) (power : Nat) : Option (Nat × Int) :=
  (nearest? (Nat.pow 10 power) 1).bind fun ten =>
    let (above, below) := ratio (number.1 * ten.1) (number.2 + ten.2)
    nearest? above below

/-- The quotient of a number by the binary number nearest to a power of ten. -/
def overPower? (number : Nat × Int) (power : Nat) : Option (Nat × Int) :=
  (nearest? (Nat.pow 10 power) 1).bind fun ten =>
    let (above, below) := ratio number.1 number.2
    let (tenAbove, tenBelow) := ratio ten.1 ten.2
    nearest? (above * tenBelow) (below * tenAbove)

/-- The greatest power of ten in the format. -/
def greatestPower : Nat := 308

/-- Scales a number by a power of ten, one factor at a time; nothing if it grows out of range. -/
def scale? (number : Nat × Int) (power : Int) : Option (Nat × Int) :=
  if number.1 = 0 then some (0, 0)
  else if 0 ≤ power then
    if power.toNat ≤ greatestPower then timesPower? number power.toNat else none
  else if (-power).toNat ≤ greatestPower then overPower? number (-power).toNat
  else (overPower? number greatestPower).bind fun smaller => scale? smaller (power + greatestPower)
termination_by power.natAbs
decreasing_by simp only [greatestPower] at *; omega

/-- The number that `significand · 10^power` is read as. -/
def ofDecimal? (isNegative : Bool) (significand : Nat) (power : Int) : Option Double :=
  if significand = 0 then some (zero isNegative)
  else (nearest? significand 1).bind fun number =>
    (scale? number power).map fun (mantissa, exponent) => ⟨isNegative, mantissa, exponent⟩

/-- Numerator and denominator of `digits · 10^power`. -/
def decimalRatio (digits : Nat) (power : Int) : Nat × Nat :=
  if 0 ≤ power then (digits * Nat.pow 10 power.toNat, 1) else (digits, Nat.pow 10 (-power).toNat)

/-- A decimal stands for a number if the number is the nearest to it. -/
def standsFor (digits : Nat) (power : Int) (mantissa : Nat) (exponent : Int) : Bool :=
  let (above, below) := decimalRatio digits power
  digits != 0 && nearest? above below == some (mantissa, exponent)

/-- The power of ten below or at a positive fraction, searched from an estimate upward. -/
def decade (above below : Nat) : Nat → Int → Int
  | 0, power => power
  | tries + 1, power =>
    let (tenAbove, tenBelow) := decimalRatio 1 (power + 1)
    if tenAbove * below ≤ above * tenBelow then decade above below tries (power + 1) else power

/-- The decimals of a given length next to a number, the nearer one first. -/
def neighbours (above below : Nat) (power : Int) : List Nat :=
  let (tenAbove, tenBelow) := decimalRatio 1 power
  let top := above * tenBelow
  let bottom := below * tenAbove
  let below := top / bottom
  let rest := 2 * (top % bottom)
  if bottom < rest ∨ (rest = bottom ∧ below % 2 = 1) then [below + 1, below] else [below, below + 1]

/-- The shortest decimal `digits · 10^power` that stands for a number, of at least `length` digits. -/
def shortestFrom (mantissa : Nat) (exponent : Int) (top : Int) : Nat → Nat → Nat × Int
  | 0, _ => (mantissa, exponent)
  | tries + 1, length =>
    let (above, below) := ratio mantissa exponent
    let power := top - (length : Int) + 1
    match (neighbours above below power).find? fun digits =>
        standsFor digits power mantissa exponent with
    | some digits => (digits, power)
    | none => shortestFrom mantissa exponent top tries (length + 1)

/-- Moves zeros at the end of the digits into the power. -/
def dropZeros : Nat → Nat → Int → Nat × Int
  | 0, digits, power => (digits, power)
  | tries + 1, digits, power =>
    if digits ≠ 0 ∧ digits % 10 = 0 then dropZeros tries (digits / 10) (power + 1)
    else (digits, power)

def shortest (mantissa : Nat) (exponent : Int) : Nat × Int :=
  let (above, below) := ratio mantissa exponent
  let estimate := ((Nat.log2 above : Int) - (Nat.log2 below : Int)) * 3 / 10 - 2
  let (digits, power) := shortestFrom mantissa exponent (decade above below 40 estimate) 17 1
  dropZeros 20 digits power

/-- An exponent with its sign, which is written in front of a positive one too. -/
def renderExponent (exponent : Int) : List Char :=
  (if 0 < exponent then ['+'] else []) ++ (toString exponent).toList

/-- Digits and a power of ten as text: with a point where that takes few zeros, and with an exponent
otherwise. -/
def renderDigits (digits : List Char) (power : Int) : List Char :=
  let length : Int := digits.length
  let point := length + power
  if 0 ≤ power ∧ point ≤ 16 then digits ++ List.replicate power.toNat '0' ++ ".0".toList
  else if 0 < point ∧ point ≤ 16 then
    digits.take point.toNat ++ '.' :: digits.drop point.toNat
  else if -5 < point ∧ point ≤ 0 then "0.".toList ++ List.replicate (-point).toNat '0' ++ digits
  else
    let tail := digits.drop 1
    digits.take 1 ++ (if tail.isEmpty then [] else '.' :: tail) ++ 'e' :: renderExponent (point - 1)

/-- The shortest text that is read as the number. -/
def render (number : Double) : String :=
  let sign := if number.isNegative then ['-'] else []
  if number.mantissa = 0 then String.ofList (sign ++ "0.0".toList)
  else
    let (digits, power) := shortest number.mantissa number.exponent
    String.ofList (sign ++ renderDigits (toString digits).toList power)

example : (ofDecimal? false 15 (-1)).map render = some "1.5" := by decide +kernel

example : (ofDecimal? true 1 (-7)).map render = some "-1e-7" := by decide +kernel

example : (ofDecimal? false 5 (-324)).map render = some "5e-324" := by decide +kernel

example : (ofDecimal? false 12345678901234567 3).map render = some "1.2345678901234567e+19" := by
  decide +kernel

end Double
end RStepper.Json
