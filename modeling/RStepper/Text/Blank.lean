/-!
Blank characters and the trimming rules built on them. Scripts, console commands and interpreter
listings are all trimmed by the Unicode class White_Space, which is larger than the blanks a
terminal knows: it holds the no-break space and the line separators too.
-/

namespace RStepper.Text

/-- A character of the Unicode class White_Space. -/
def isBlank (c : Char) : Bool :=
  let code := c.toNat
  (9 ≤ code && code ≤ 13) || code == 0x20 || code == 0x85 || code == 0xA0 || code == 0x1680 ||
    (0x2000 ≤ code && code ≤ 0x200A) || code == 0x2028 || code == 0x2029 || code == 0x202F ||
    code == 0x205F || code == 0x3000

def trimStart (text : List Char) : List Char :=
  text.dropWhile isBlank

def trimEnd (text : List Char) : List Char :=
  (text.reverse.dropWhile isBlank).reverse

def trim (text : List Char) : List Char :=
  trimEnd (trimStart text)

/-- The first word of a trimmed text and what follows the one blank behind it. -/
def splitWord (text : List Char) : List Char × List Char :=
  (text.takeWhile (!isBlank ·), (text.dropWhile (!isBlank ·)).drop 1)

theorem trimStart_of_not_isBlank {c : Char} {rest : List Char} (solid : isBlank c = false) :
    trimStart (c :: rest) = c :: rest := by
  simp [trimStart, solid]

/-- Trimming takes blanks from the front only. -/
theorem trimStart_append {blanks : List Char} (allBlank : ∀ c ∈ blanks, isBlank c = true)
    (text : List Char) : trimStart (blanks ++ text) = trimStart text := by
  simp [trimStart, List.dropWhile_append_of_pos allBlank]

end RStepper.Text
