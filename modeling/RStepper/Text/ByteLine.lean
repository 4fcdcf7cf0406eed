import RStepper.Failure
import RStepper.Text.Utf8

/-!
Reading a stream of bytes line by line. A line runs up to its LF and keeps it; the last one may lack
it. A line whose bytes are not UTF-8 cannot be read.
-/

namespace RStepper.Text

/-- The bytes up to the first LF, which they keep, and the bytes behind it. -/
def splitByteLine : List UInt8 → List UInt8 × List UInt8
  | [] => ([], [])
  | byte :: rest =>
    if byte = 0x0A then ([byte], rest)
    else
      let (line, behind) := splitByteLine rest
      (byte :: line, behind)

/-- A stream cut behind every LF; no piece is empty. -/
def byteLines : List UInt8 → List (List UInt8)
  | [] => []
  | byte :: rest =>
    if byte = 0x0A then [byte] :: byteLines rest
    else match byteLines rest with
      | [] => [[byte]]
      | line :: more => (byte :: line) :: more

def readByteLine (line : List UInt8) : Except StreamFault (List Char) :=
  match Utf8.decode? line with
  | some text => .ok text
  | none => .error .notUtf8

/-- The bytes of a line and those behind it are all there are. -/
theorem splitByteLine_append (bytes : List UInt8) :
    (splitByteLine bytes).1 ++ (splitByteLine bytes).2 = bytes := by
  induction bytes with
  | nil => rfl
  | cons byte rest ih =>
    unfold splitByteLine
    split
    · rfl
    · simpa using ih

/-- Taking a line off uses up a part of the stream. -/
theorem length_splitByteLine_lt {bytes : List UInt8} (some : bytes ≠ []) :
    (splitByteLine bytes).2.length < bytes.length := by
  have whole := congrArg List.length (splitByteLine_append bytes)
  rw [List.length_append] at whole
  have taken : (splitByteLine bytes).1 ≠ [] := by
    cases bytes with
    | nil => exact absurd rfl some
    | cons byte rest => unfold splitByteLine; split <;> simp
  have counted := List.length_pos_iff.2 taken
  omega

end RStepper.Text
