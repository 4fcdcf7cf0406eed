import RStepper.Adapter.Message
import RStepper.Json.Reader
import RStepper.Text.Blank
import RStepper.Text.ByteLine
import RStepper.Text.Number

/-!
Messages as a stream of bytes: each message is a header that gives the length of its body in bytes,
a blank line, and the body. Other header lines are passed over.
-/

namespace RStepper.Adapter
open Text

/-- The header field that gives the length of the body. -/
def lengthMark : String := "Content-Length:"

def Message.body (message : Message) : List Char :=
  message.toJson.write

def Message.frame (message : Message) : List Char :=
  lengthMark.toList ++ ' ' :: (toString (byteLength message.body)).toList ++ "\r\n\r\n".toList ++
    message.body

/-- What a stream has at its front. -/
inductive Incoming where
  | none
  | fault (fault : StreamFault)
  | message (message : Message)
  deriving Repr, Inhabited

def Incoming.ofBody (body : List UInt8) : Incoming :=
  match (Utf8.decode? body).bind fun text => (Json.read text).bind Message.ofJson? with
  | some read => .message read
  | .none => .fault .notMessage

/-- What a header line says about the length of the body: nothing if it is about something else. A
length that cannot be read undoes an earlier one. -/
def lengthIn? (line : List Char) : Option (Option Nat) :=
  (stripStart lengthMark line).map fun value => readCount? (trim value)

/-- The length of the next body and the bytes behind its header; `known` is the length that the
header gave so far. A blank line ends the header once a length is known. -/
def readHeader (known : Option Nat) (bytes : List UInt8) :
    Except StreamFault (Option Nat) × List UInt8 :=
  if _more : bytes = [] then (.ok none, [])
  else
    let rest := (splitByteLine bytes).2
    match readByteLine (splitByteLine bytes).1 with
    | .error fault => (.error fault, rest)
    | .ok text =>
      let line := trimEnd text
      if line = [] ∧ known.isSome then (.ok known, rest)
      else readHeader ((lengthIn? line).getD known) rest
termination_by bytes.length
decreasing_by exact length_splitByteLine_lt _more

def readMessage (bytes : List UInt8) : Incoming × List UInt8 :=
  match readHeader none bytes with
  | (.error fault, rest) => (.fault fault, rest)
  | (.ok none, rest) => (.none, rest)
  | (.ok (some length), rest) =>
    if rest.length < length then (.fault .endedEarly, [])
    else (.ofBody (rest.take length), rest.drop length)

/-- The front of a stream is no message yet, and more bytes could make it one. -/
def isPartial (bytes : List UInt8) : Bool :=
  match readMessage bytes with
  | (.none, _) => true
  | (.fault .endedEarly, _) => true
  | (.fault .notUtf8, rest) => rest.isEmpty && bytes.getLast? != some 0x0A
  | _ => false

theorem length_readHeader_le (known : Option Nat) (bytes : List UInt8) :
    (readHeader known bytes).2.length ≤ bytes.length := by
  fun_induction readHeader known bytes with
  | case1 => simp
  | case2 _ bytes more rest fault _ => exact Nat.le_of_lt (length_splitByteLine_lt more)
  | case3 _ bytes more rest _ _ _ _ => exact Nat.le_of_lt (length_splitByteLine_lt more)
  | case4 _ bytes more rest _ _ _ _ ih =>
    exact Nat.le_trans ih (Nat.le_of_lt (length_splitByteLine_lt more))

theorem length_readHeader_lt {known : Option Nat} {bytes : List UInt8} {length : Nat}
    (found : (readHeader known bytes).1 = .ok (some length)) :
    (readHeader known bytes).2.length < bytes.length := by
  unfold readHeader at found ⊢
  split at found
  · cases found
  next more =>
    rw [dif_neg more]
    have shorter := length_splitByteLine_lt more
    split at found
    · cases found
    next text read =>
      dsimp only at found ⊢
      split
      · exact shorter
      · exact Nat.lt_of_le_of_lt (length_readHeader_le _ _) shorter

/-- Reading a message uses up a part of the stream. -/
theorem length_readMessage_lt {bytes : List UInt8} {message : Message}
    (read : (readMessage bytes).1 = .message message) :
    (readMessage bytes).2.length < bytes.length := by
  unfold readMessage at read ⊢
  rcases header : readHeader none bytes with ⟨found, rest⟩
  rw [header] at read
  cases found with
  | error fault => cases read
  | ok known =>
    cases known with
    | none => cases read
    | some length =>
      have shorter := length_readHeader_lt (congrArg Prod.fst header)
      rw [header] at shorter
      dsimp only at read shorter ⊢
      split at read
      · cases read
      next enough =>
        rw [if_neg enough, List.length_drop]
        omega

end RStepper.Adapter
