/-!
What a line is. Scripts, listings and diagnostics are read in `lines`, which end at LF or CRLF. The
console's own output is read in `rows`, which a lone CR ends as well. Offsets into a text count the
bytes of its UTF-8 form.
-/

namespace RStepper.Text

/-- A text without line breaks, as the rules on lines see it. -/
abbrev Line := List Char

/-- The text cut behind every LF; each piece keeps its own, and no piece is empty. -/
def segments : List Char → List Line
  | [] => []
  | c :: rest =>
    if c = '\n' then ['\n'] :: segments rest
    else match segments rest with
      | [] => [[c]]
      | piece :: more => (c :: piece) :: more

/-- A piece without the LF or CRLF at its end. -/
def stripBreak : List Char → Line
  | [] => []
  | ['\n'] => []
  | ['\r', '\n'] => []
  | c :: rest => c :: stripBreak rest

/-- The lines of a text; a break at its very end starts no further line. -/
def lines (text : List Char) : List Line :=
  (segments text).map stripBreak

/-- The rows of console output: LF, CRLF and a lone CR each end one, and there is always one more
row than there are breaks. -/
def rows : List Char → List Line
  | [] => [[]]
  | '\r' :: '\n' :: rest => [] :: rows rest
  | c :: rest =>
    if c = '\n' ∨ c = '\r' then [] :: rows rest
    else match rows rest with
      | [] => [[c]]
      | row :: more => (c :: row) :: more

def joinLines (text : List Line) : List Char :=
  ['\n'].intercalate text

/-- The number of bytes of a text's UTF-8 form. -/
def byteLength : List Char → Nat
  | [] => 0
  | c :: rest => c.utf8Size + byteLength rest

/-- The text behind its first `count` bytes. -/
def dropBytes (count : Nat) : List Char → List Char
  | [] => []
  | c :: rest => if count = 0 then c :: rest else dropBytes (count - c.utf8Size) rest

/-- The first `count` bytes of a text. -/
def takeBytes (count : Nat) : List Char → List Char
  | [] => []
  | c :: rest => if count = 0 then [] else c :: takeBytes (count - c.utf8Size) rest

def startsWith (mark : String) (text : List Char) : Bool :=
  mark.toList.isPrefixOf text

/-- What follows `mark`, if the text starts with it. -/
def stripStart (mark : String) (text : List Char) : Option (List Char) :=
  mark.toList.isPrefixOf? text

/-- What comes before `mark`, if the text ends with it. -/
def stripEnd (mark : String) (text : List Char) : Option (List Char) :=
  mark.toList.isSuffixOf? text

/-- The text behind the first place where `mark` stands. -/
def textAfter (mark : String) : List Char → Option (List Char)
  | [] => stripStart mark []
  | c :: rest =>
    match stripStart mark (c :: rest) with
    | some after => some after
    | none => textAfter mark rest

theorem rows_ne_nil (text : List Char) : rows text ≠ [] := by
  fun_induction rows text <;> simp

@[simp] theorem byteLength_nil : byteLength [] = 0 := rfl

@[simp] theorem byteLength_cons (c : Char) (text : List Char) :
    byteLength (c :: text) = c.utf8Size + byteLength text := rfl

@[simp] theorem byteLength_append (first second : List Char) :
    byteLength (first ++ second) = byteLength first + byteLength second := by
  induction first with
  | nil => simp
  | cons c rest ih => simp [ih, Nat.add_assoc]

@[simp] theorem dropBytes_append (first second : List Char) :
    dropBytes (byteLength first) (first ++ second) = second := by
  induction first with
  | nil => cases second <;> simp [dropBytes]
  | cons c rest ih =>
    have wide := c.utf8Size_pos
    rw [List.cons_append, dropBytes, if_neg (by simp; omega), byteLength_cons,
      Nat.add_sub_cancel_left]
    exact ih

@[simp] theorem takeBytes_append (first second : List Char) :
    takeBytes (byteLength first) (first ++ second) = first := by
  induction first with
  | nil => cases second <;> simp [takeBytes]
  | cons c rest ih =>
    have wide := c.utf8Size_pos
    rw [List.cons_append, takeBytes, if_neg (by simp; omega), byteLength_cons,
      Nat.add_sub_cancel_left, ih]

end RStepper.Text
