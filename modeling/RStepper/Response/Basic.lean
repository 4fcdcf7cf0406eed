import RStepper.Response.Layout

/-!
The response to one command: the console text from the echoed command to the prompt, cut into its
rows, classified, and with the program's own output marked off by byte offsets.
-/

namespace RStepper
open Text

/-- One command's worth of console text. -/
structure Response where
  /-- Everything read, with the echoed command and the prompt. -/
  raw : String
  /-- The rows between the echo and the prompt. -/
  text : String
  kind : Kind
  /-- Byte offsets of the program's output in `text`. -/
  outputStart : Nat
  outputEnd : Nat
  deriving DecidableEq, Repr, Inhabited

namespace Response

def output (response : Response) : String :=
  String.ofList (takeBytes (response.outputEnd - response.outputStart)
    (dropBytes response.outputStart response.text.toList))

/-- The rows without the first and the last. -/
def bodyOf (all : List Line) : List Line :=
  (all.drop 1).dropLast

/-- The bytes before line `index` of the joined body; the last line has no break behind it. -/
def offsetBefore (body : List Line) (index : Nat) : Nat :=
  byteLength (joinLines (body.take index)) + if 0 < index ∧ index < body.length then 1 else 0

/-- The bytes up to the end of the line before `index`, without its break. -/
def offsetThrough (body : List Line) (index : Nat) : Nat :=
  byteLength (joinLines (body.take index))

/-- The offsets of a layout's output; none is written as an empty range at the start. -/
def outputRange (body : List Line) (layout : Layout) : Nat × Nat :=
  if layout.stop ≤ layout.first then (0, 0)
  else (offsetBefore body layout.first, offsetThrough body layout.stop)

/-- The layout of a complete response, given all its rows. -/
def layoutOf (all : List Line) : Layout :=
  let body := bodyOf all
  if all.getLast? = some Marker.continuationPrompt.toList then ⟨.continuation, 0, body.length⟩
  else Layout.ofBody body

/-- Takes a text apart that ends in a prompt, and refuses every other. -/
def classify (text : String) : Option Response :=
  if Marker.isComplete text.toList then
    let all := rows text.toList
    let body := bodyOf all
    let layout := layoutOf all
    let range := outputRange body layout
    some ⟨text, String.ofList (joinLines body), layout.kind, range.1, range.2⟩
  else none

def incompleteMessage (quotedText : String) : String :=
  "response is not terminated by a prompt: " ++ quotedText

end Response
end RStepper
