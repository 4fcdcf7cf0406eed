/-!
UTF-8 as a machine that takes one byte at a time. `decode?` refuses ill-formed bytes; `decodeLossy`
puts one replacement character in the place of each longest run of bytes that begins a character
and cannot be continued, so that what it says of some bytes does not depend on how they arrived.
-/

namespace RStepper.Text.Utf8

/-- The stand-in for bytes that are no character. -/
def replacement : Char := '\uFFFD'

def encodeChar (c : Char) : List UInt8 :=
  let code := c.toNat
  if code < 0x80 then [code.toUInt8]
  else if code < 0x800 then [(0xC0 + code / 0x40).toUInt8, (0x80 + code % 0x40).toUInt8]
  else if code < 0x10000 then
    [(0xE0 + code / 0x1000).toUInt8, (0x80 + code / 0x40 % 0x40).toUInt8,
      (0x80 + code % 0x40).toUInt8]
  else
    [(0xF0 + code / 0x40000).toUInt8, (0x80 + code / 0x1000 % 0x40).toUInt8,
      (0x80 + code / 0x40 % 0x40).toUInt8, (0x80 + code % 0x40).toUInt8]

def encode (text : List Char) : List UInt8 :=
  text.flatMap encodeChar

/-- Where the decoder stands between two bytes: at the end of a character, or inside one that still
owes bytes, the next of them between two bounds. -/
inductive State where
  | between
  | inside (owed low high value : Nat)
  deriving DecidableEq, Repr

/-- The first byte of a character: the character it completes, if any, and the state behind it. -/
def lead (byte : Nat) : Option (Option Char × State) :=
  if byte < 0x80 then some (some (Char.ofNat byte), .between)
  else if byte < 0xC2 then none
  else if byte < 0xE0 then some (none, .inside 1 0x80 0xBF (byte - 0xC0))
  else if byte = 0xE0 then some (none, .inside 2 0xA0 0xBF 0)
  else if byte = 0xED then some (none, .inside 2 0x80 0x9F 0xD)
  else if byte < 0xF0 then some (none, .inside 2 0x80 0xBF (byte - 0xE0))
  else if byte = 0xF0 then some (none, .inside 3 0x90 0xBF 0)
  else if byte < 0xF4 then some (none, .inside 3 0x80 0xBF (byte - 0xF0))
  else if byte = 0xF4 then some (none, .inside 3 0x80 0x8F 4)
  else none

/-- One byte: nothing if it cannot stand here. -/
def advance (state : State) (byte : Nat) : Option (Option Char × State) :=
  match state with
  | .between => lead byte
  | .inside owed low high value =>
    if low ≤ byte ∧ byte ≤ high then
      let grown := value * 0x40 + (byte - 0x80)
      if owed ≤ 1 then some (some (Char.ofNat grown), .between)
      else some (none, .inside (owed - 1) 0x80 0xBF grown)
    else none

/-- The characters of well-formed bytes, read from a given state. -/
def decodeFrom (state : State) : List UInt8 → Option (List Char)
  | [] => if state = .between then some [] else none
  | byte :: rest =>
    match advance state byte.toNat with
    | none => none
    | some (none, next) => decodeFrom next rest
    | some (some c, next) => (decodeFrom next rest).map (c :: ·)

/-- The characters of bytes that are UTF-8, and nothing otherwise. -/
def decode? (bytes : List UInt8) : Option (List Char) :=
  decodeFrom .between bytes

/-- One byte of bytes that need not be UTF-8: the characters it completes and the state behind it.
A byte that cannot continue a character ends it and is read again as a first byte. -/
def advanceLossy (state : State) (byte : Nat) : List Char × State :=
  match advance state byte with
  | some (done, next) => (done.toList, next)
  | none =>
    match state with
    | .between => ([replacement], .between)
    | .inside .. =>
      match lead byte with
      | some (done, next) => (replacement :: done.toList, next)
      | none => ([replacement, replacement], .between)

def decodeLossyFrom (state : State) : List UInt8 → List Char
  | [] => if state = .between then [] else [replacement]
  | byte :: rest =>
    let (done, next) := advanceLossy state byte.toNat
    done ++ decodeLossyFrom next rest

/-- The characters of any bytes, with a replacement where they are not UTF-8. -/
def decodeLossy (bytes : List UInt8) : List Char :=
  decodeLossyFrom .between bytes

example : decode? (encode ['a', 'é', '€', '😀']) = some ['a', 'é', '€', '😀'] := by decide

example : decodeLossy [0x61, 0xE2, 0x82, 0x61, 0xC0, 0xF0, 0x9F] =
    ['a', replacement, 'a', replacement, replacement] := by decide

/-- The decoder takes any characters one by one. -/
theorem encode_append (first second : List Char) : encode (first ++ second) = encode first ++ encode second := by
  simp [encode]

end RStepper.Text.Utf8
