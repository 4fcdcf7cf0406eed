import Mathlib.Data.List.Basic
import RStepper.Json.Reader
import RStepper.Json.Writer

/-! Reading takes back what writing gave, for every value without fractions that is not nested too deep. -/

namespace RStepper.Json

/-- A value whose numbers are whole and take 64 bits, and which holds values at most so many levels deep. -/
inductive Fits : Nat → Json → Prop where
  | null {levels} : Fits levels .null
  | bool {levels value} : Fits levels (.bool value)
  | int {levels value} (low : (-9223372036854775808 : Int) ≤ value) (high : value < Text.wordLimit) : Fits levels (.int value)
  | str {levels value} : Fits levels (.str value)
  | arr {levels items} (each : ∀ item ∈ items, Fits levels item) : Fits (levels + 1) (.arr items)
  | obj {levels fields} (each : ∀ field ∈ fields, Fits levels field.2) : Fits (levels + 1) (.obj fields)

/-- What stands behind a value in a text: nothing that could go on with a number. -/
def Ends (rest : List Char) : Prop :=
  ∀ c ∈ rest.head?, c.isDigit = false ∧ c ≠ '.' ∧ c ≠ 'e' ∧ c ≠ 'E'

theorem ends_nil : Ends [] := nofun

theorem ends_cons {c : Char} (rest : List Char) (mark : c = ',' ∨ c = ']' ∨ c = '\x7d') : Ends (c :: rest) := by
  rintro _ ⟨⟩
  rcases mark with rfl | rfl | rfl <;> decide

theorem skipSpace_cons {c : Char} (rest : List Char) (solid : isSpace c = false) : skipSpace (c :: rest) = c :: rest := by
  simp [skipSpace, solid]

/-! Strings. -/

/-- The piece that an escaped character is read as. -/
def pieceOf (c : Char) : Piece :=
  if c.toNat < 0x20 ∧ c ∉ ['\n', '\r', '\t', '\x08', '\x0c'] then .unit c.toNat else .char c

theorem unitCode?_controlCode : ∀ code < 0x20,
    unitCode? '0' '0' (Nat.digitChar (code / 16)) (Nat.digitChar (code % 16)) = some code := by
  decide

theorem readPieces_plain {c : Char} (rest : List Char) (apart : c ≠ '"' ∧ c ≠ '\\') (shown : ¬ c.toNat < 0x20) :
    readPieces (c :: rest) = (readPieces rest).map fun (pieces, behind) => (.char c :: pieces, behind) := by
  rw [readPieces.eq_def]
  split
  · next empty => cases empty
  · next quote => cases quote; exact absurd rfl apart.1
  · next unit => cases unit; exact absurd rfl apart.2
  · next escape => cases escape; exact absurd rfl apart.2
  · next same => cases same; rw [if_neg (not_or.mpr ⟨shown, apart.2⟩)]

theorem readPieces_escapeChar (c : Char) (rest : List Char) :
    readPieces (escapeChar c ++ rest) =
      (readPieces rest).map fun (pieces, behind) => (pieceOf c :: pieces, behind) := by
  have code (control : Char) : c = control ↔ c.toNat = control.toNat := Char.toNat_inj.symm
  unfold escapeChar
  split
  next quote => subst quote; rfl
  next noQuote =>
  split
  next backslash => subst backslash; rfl
  next noBackslash =>
  split
  next control =>
    split
    next same => subst same; rfl
    next noFeed =>
    split
    next same => subst same; rfl
    next noReturn =>
    split
    next same => subst same; rfl
    next noTab =>
    split
    next same => obtain rfl := (code '\x08').mpr same; rfl
    next noBack =>
    split
    next same => obtain rfl := (code '\x0c').mpr same; rfl
    next noForm =>
      have piece : pieceOf c = .unit c.toNat := by
        have back : c ≠ '\x08' := fun same => noBack ((code _).mp same)
        have form : c ≠ '\x0c' := fun same => noForm ((code _).mp same)
        simp [pieceOf, control, noFeed, noReturn, noTab, back, form]
      rw [controlCode, List.cons_append, List.cons_append, List.cons_append, readPieces.eq_def]
      simp only [List.cons_append, List.nil_append, unitCode?_controlCode _ control, piece]
  next shown =>
    have piece : pieceOf c = .char c := by simp [pieceOf, shown]
    rw [List.singleton_append, readPieces_plain rest ⟨noQuote, noBackslash⟩ shown, piece]

theorem readPieces_escaped (text rest : List Char) :
    readPieces (text.flatMap escapeChar ++ '"' :: rest) = some (text.map pieceOf, rest) := by
  induction text with
  | nil => rfl
  | cons c text ih => rw [List.flatMap_cons, List.append_assoc, readPieces_escapeChar, ih]; rfl

theorem joinPieces_pieceOf (c : Char) (rest : List Piece) :
    joinPieces (pieceOf c :: rest) = (joinPieces rest).map (c :: ·) := by
  unfold pieceOf
  split
  next control =>
    have whole : isLeading c.toNat = false ∧ isTrailing c.toNat = false := by
      constructor <;> simp [isLeading, isTrailing] <;> omega
    cases rest with
    | nil => simp [joinPieces, whole, Char.ofNat_toNat]
    | cons piece more => cases piece <;> simp [joinPieces, whole, Char.ofNat_toNat]
  next => rfl

theorem joinPieces_map (text : List Char) : joinPieces (text.map pieceOf) = some text := by
  induction text with
  | nil => rfl
  | cons c text ih => rw [List.map_cons, joinPieces_pieceOf, ih]; rfl

theorem readString_escaped (text : String) (rest : List Char) :
    readString (text.toList.flatMap escapeChar ++ '"' :: rest) = some (text, rest) := by
  simp [readString, readPieces_escaped, joinPieces_map]

theorem writeString_append (text : String) (rest : List Char) :
    writeString text ++ rest = '"' :: (text.toList.flatMap escapeChar ++ '"' :: rest) := by
  simp [writeString]

/-! Numbers. -/

/-- Digits are taken into a significand as long as the number they make takes 64 bits. -/
theorem accumulate_eq {digits : List Char} {significand : Nat} (small : Nat.ofDigitChars 10 digits significand < Text.wordLimit) :
    accumulate significand digits = (Nat.ofDigitChars 10 digits significand, []) := by
  induction digits generalizing significand with
  | nil => rfl
  | cons c rest ih =>
    rw [Nat.ofDigitChars_cons, Nat.mul_comm] at small ⊢
    have least : significand * 10 + (c.toNat - '0'.toNat) ≤
        Nat.ofDigitChars 10 rest (significand * 10 + (c.toNat - '0'.toNat)) := by
      rw [Nat.ofDigitChars_eq_ofDigitChars_zero]
      exact Nat.le_trans (Nat.le_mul_of_pos_left _ (Nat.pow_pos (by decide))) (Nat.le_add_right _ _)
    rw [accumulate]
    rw [if_pos (Nat.lt_of_le_of_lt least small), ih small]

theorem digitChar_ne_zero : ∀ digit < 10, 0 < digit → Nat.digitChar digit ≠ '0' := by
  decide

theorem head?_toDigits {number : Nat} (positive : 0 < number) : (Nat.toDigits 10 number).head? ≠ some '0' := by
  induction number using Nat.strongRecOn with
  | ind number ih =>
    rw [Nat.toDigits_eq_if (by decide)]
    split
    next small => simpa using digitChar_ne_zero number small positive
    next large =>
      intro zero
      rw [List.head?_append] at zero
      cases first : (Nat.toDigits 10 (number / 10)).head? with
      | none => exact Nat.toDigits_ne_nil (List.head?_eq_none_iff.mp first)
      | some c =>
        rw [first] at zero
        cases zero
        exact ih (number / 10) (by omega) (by omega) first

theorem spanDigits_toDigits (number : Nat) {rest : List Char} (ends : Ends rest) :
    spanDigits (Nat.toDigits 10 number ++ rest) = (Nat.toDigits 10 number, rest) := by
  have digits : ∀ c ∈ Nat.toDigits 10 number, c.isDigit = true :=
    fun c member => Nat.isDigit_of_mem_toDigits (by decide) (by decide) member
  have stops : rest.takeWhile Char.isDigit = [] ∧ rest.dropWhile Char.isDigit = rest := by
    cases rest with
    | nil => exact ⟨rfl, rfl⟩
    | cons c more => simp [(ends c rfl).1]
  rw [spanDigits, List.takeWhile_append_of_pos digits, List.dropWhile_append_of_pos digits, stops.1, stops.2, List.append_nil]

theorem readNumber_toDigits (negative : Bool) {number : Nat} (small : number < Text.wordLimit)
    (sign : negative = true → number ≠ 0 ∧ 2 * number ≤ Text.wordLimit) {rest : List Char} (ends : Ends rest) :
    readNumber negative (Nat.toDigits 10 number ++ rest) =
      some (.int (if negative then -(number : Int) else number), rest) := by
  have value : Nat.ofDigitChars 10 (Nat.toDigits 10 number) 0 = number :=
    Nat.ofDigitChars_toDigits (by decide) (by decide)
  have taken : accumulate 0 (Nat.toDigits 10 number) = (number, []) := by
    rw [accumulate_eq (by rw [value]; exact small), value]
  have written : (Nat.toDigits 10 number).isEmpty = false := by simp [Nat.toDigits_ne_nil]
  have plain : ¬ ((Nat.toDigits 10 number).head? = some '0' ∧ (Nat.toDigits 10 number).length ≠ 1) := by
    rintro ⟨zero, long⟩
    rcases Nat.eq_zero_or_pos number with rfl | positive
    · exact long rfl
    · exact head?_toDigits positive zero
  have exponent : readExponent rest = some (false, [], rest) := by
    unfold readExponent
    split
    next c more => rw [if_neg (not_or.mpr (ends c rfl).2.2)]
    next => rfl
  simp only [readNumber, spanDigits_toDigits number ends, taken, written, plain, Bool.false_eq_true, or_self, if_false,
    Option.bind_eq_bind]
  split
  next => exact absurd rfl (ends _ rfl).2.1
  next =>
    simp only [Option.bind_some, exponent, List.isEmpty_nil, Bool.not_false, and_self, if_true]
    cases negative with
    | false => rfl
    | true => simp [sign rfl]

/-! Values. -/

theorem write_int (value : Int) : ∃ c text, (int value).write = c :: text ∧ (c.isDigit = true ∨ c = '-') := by
  rw [write, Int.toString_eq_repr, Int.repr_eq_if]
  split
  · rw [Nat.toList_repr]
    cases digits : Nat.toDigits 10 value.toNat with
    | nil => exact absurd digits Nat.toDigits_ne_nil
    | cons c rest =>
      have member : c ∈ Nat.toDigits 10 value.toNat := by simp [digits]
      exact ⟨c, rest, rfl, .inl (Nat.isDigit_of_mem_toDigits (by decide) (by decide) member)⟩
  · exact ⟨'-', _, by rw [String.toList_append]; rfl, .inr rfl⟩

theorem ne_of_numeral {c : Char} (numeral : c.isDigit = true ∨ c = '-') {mark : Char} (other : mark.isDigit = false)
    (sign : mark ≠ '-') : c ≠ mark := by
  rintro rfl
  rcases numeral with digit | same
  · rw [digit] at other
    cases other
  · exact sign same

theorem isSpace_numeral {c : Char} (numeral : c.isDigit = true ∨ c = '-') : isSpace c = false := by
  simp only [isSpace, Bool.or_eq_false_iff, beq_eq_false_iff_ne]
  refine ⟨⟨⟨?_, ?_⟩, ?_⟩, ?_⟩ <;> exact ne_of_numeral numeral (by decide) (by decide)

/-- The first character of a value's text: no blank, and no closing bracket. -/
theorem Fits.opens {levels : Nat} {value : Json} (fits : Fits levels value) :
    ∃ c text, value.write = c :: text ∧ isSpace c = false ∧ c ≠ ']' := by
  cases fits with
  | null => exact ⟨_, _, rfl, by decide, by decide⟩
  | @bool _ value => cases value <;> exact ⟨_, _, rfl, by decide, by decide⟩
  | str => exact ⟨_, _, by rw [write]; rfl, by decide, by decide⟩
  | arr | obj => exact ⟨_, _, by rw [write], by decide, by decide⟩
  | @int _ value =>
    obtain ⟨c, text, written, numeral⟩ := write_int value
    exact ⟨c, text, written, isSpace_numeral numeral, ne_of_numeral numeral (by decide) (by decide)⟩

theorem readWord_append (word : String) (value : Json) (rest : List Char) :
    readWord word value (word.toList ++ rest) = some (value, rest) := by
  rw [readWord, Text.stripStart, List.isPrefixOf?_eq_some_iff_append_eq.mpr rfl]
  rfl

theorem readScalar_digit {c : Char} (text : List Char) (digit : c.isDigit = true) :
    readScalar (c :: text) = readNumber false (c :: text) := by
  unfold readScalar
  split <;> first | rfl | (rename_i same; cases same; cases digit)

theorem readScalar_int {value : Int} (low : -9223372036854775808 ≤ value) (high : value < Text.wordLimit)
    {rest : List Char} (ends : Ends rest) : readScalar ((Json.int value).write ++ rest) = some (.int value, rest) := by
  have limit : (Text.wordLimit : Int) = 18446744073709551616 := rfl
  rw [write, Int.toString_eq_repr, Int.repr_eq_if]
  split
  next natural =>
    rw [Nat.toList_repr]
    have small : value.toNat < Text.wordLimit := by omega
    have read := readNumber_toDigits false small nofun ends
    rw [if_neg Bool.false_ne_true, Int.toNat_of_nonneg natural] at read
    cases digits : Nat.toDigits 10 value.toNat with
    | nil => exact absurd digits Nat.toDigits_ne_nil
    | cons c more =>
      have member : c ∈ Nat.toDigits 10 value.toNat := by simp [digits]
      rw [List.cons_append, readScalar_digit _ (Nat.isDigit_of_mem_toDigits (by decide) (by decide) member)]
      rwa [digits] at read
  next negative =>
    rw [String.toList_append, Nat.toList_repr]
    change readNumber true (Nat.toDigits 10 (-value).toNat ++ rest) = _
    rw [readNumber_toDigits true (by omega) (fun _ => by constructor <;> omega) ends]
    simp only [if_true, Option.some.injEq, Prod.mk.injEq, Json.int.injEq, and_true]
    omega

theorem readValue_scalar {c : Char} {text : List Char} (levels : Nat) (solid : isSpace c = false)
    (single : c ≠ '[' ∧ c ≠ '\x7b') : readValue levels (c :: text) = readScalar (c :: text) := by
  cases levels with
  | zero =>
    rw [readValue, skipSpace_cons _ solid]
    split <;> simp_all
  | succ levels =>
    rw [readValue, skipSpace_cons _ solid]
    split <;> simp_all

theorem ends_writeItems (items : List Json) (rest : List Char) : Ends (writeItems false items ++ rest) := by
  cases items <;> exact ends_cons _ (by simp)

theorem ends_writeFields (fields : List (String × Json)) (rest : List Char) : Ends (writeFields false fields ++ rest) := by
  cases fields <;> exact ends_cons _ (by simp)

theorem readItems_writeItems {levels : Nat} {first : Json} {more : List Json}
    (each : ∀ item ∈ first :: more, ∀ rest, Ends rest → readValue levels (item.write ++ rest) = some (item, rest))
    {count : Nat} (enough : more.length < count) (rest : List Char) :
    readItems (readValue levels) count (first.write ++ (writeItems false more ++ rest)) = some (first :: more, rest) := by
  induction more generalizing first count with
  | nil =>
    obtain ⟨count, rfl⟩ := Nat.exists_eq_add_of_lt enough
    rw [readItems, each first List.mem_cons_self _ (ends_writeItems [] rest)]
    rfl
  | cons second more ih =>
    obtain ⟨count, rfl⟩ : ∃ less, count = less + 1 := ⟨count - 1, by rw [List.length_cons] at enough; omega⟩
    rw [readItems, each first List.mem_cons_self _ (ends_writeItems _ rest)]
    have behind := ih (fun item member => each item (List.mem_cons_of_mem _ member)) (Nat.lt_of_succ_lt_succ enough)
    have separated : readSeparator ']' (writeItems false (second :: more) ++ rest) =
        some (true, second.write ++ (writeItems false more ++ rest)) := by
      rw [writeItems, if_neg Bool.false_ne_true, List.append_assoc, List.append_assoc]
      rfl
    simp only [Option.bind_eq_bind, Option.bind_some, separated, if_true, behind]
    rfl

theorem readKey_writeString (key : String) (rest : List Char) :
    readKey (writeString key ++ ':' :: rest) = some (key, rest) := by
  rw [writeString_append, readKey, skipSpace_cons _ (by decide)]
  simp only [readString_escaped, Option.bind_eq_bind, Option.bind_some]
  rfl

theorem readFields_writeFields {levels : Nat} {key : String} {first : Json} {more : List (String × Json)}
    (each : ∀ field ∈ (key, first) :: more, ∀ rest, Ends rest →
      readValue levels (field.2.write ++ rest) = some (field.2, rest))
    {count : Nat} (enough : more.length < count) (rest : List Char) :
    readFields (readValue levels) count
      (writeString key ++ (':' :: (first.write ++ (writeFields false more ++ rest)))) = some ((key, first) :: more, rest) := by
  induction more generalizing key first count with
  | nil =>
    obtain ⟨count, rfl⟩ := Nat.exists_eq_add_of_lt enough
    have value := each (key, first) List.mem_cons_self _ (ends_writeFields [] rest)
    dsimp only at value
    rw [readFields, readKey_writeString]
    simp only [Option.bind_eq_bind, Option.bind_some, value]
    rfl
  | cons second more ih =>
    obtain ⟨count, rfl⟩ : ∃ less, count = less + 1 := ⟨count - 1, by rw [List.length_cons] at enough; omega⟩
    have value := each (key, first) List.mem_cons_self _ (ends_writeFields (second :: more) rest)
    have behind := ih (fun field member => each field (List.mem_cons_of_mem _ member)) (Nat.lt_of_succ_lt_succ enough)
    have separated : readSeparator '\x7d' (writeFields false (second :: more) ++ rest) =
        some (true, writeString second.1 ++ (':' :: (second.2.write ++ (writeFields false more ++ rest)))) := by
      simp only [writeFields, if_neg Bool.false_ne_true, List.append_assoc, List.cons_append]
      rfl
    dsimp only at value
    rw [readFields, readKey_writeString]
    simp only [Option.bind_eq_bind, Option.bind_some, value, separated, if_true, behind]
    rfl

theorem length_le_writeItems (items : List Json) : items.length ≤ (writeItems false items).length := by
  induction items with
  | nil => simp
  | cons item rest ih => simp only [writeItems, List.length_append, List.length_cons, if_neg Bool.false_ne_true]; omega

theorem length_le_writeFields (fields : List (String × Json)) : fields.length ≤ (writeFields false fields).length := by
  induction fields with
  | nil => simp
  | cons field rest ih =>
    simp only [writeFields, List.length_append, List.length_cons, if_neg Bool.false_ne_true]
    omega

theorem readValue_write {levels : Nat} {value : Json} (fits : Fits levels value) {rest : List Char} (ends : Ends rest) :
    readValue levels (value.write ++ rest) = some (value, rest) := by
  induction fits generalizing rest with
  | @null levels =>
    exact (readValue_scalar levels (by decide) (by decide)).trans (readWord_append "null" .null rest)
  | @bool levels value =>
    cases value with
    | true => exact (readValue_scalar levels (by decide) (by decide)).trans (readWord_append "true" (.bool true) rest)
    | false => exact (readValue_scalar levels (by decide) (by decide)).trans (readWord_append "false" (.bool false) rest)
  | @str levels text =>
    rw [write, writeString_append, readValue_scalar levels (by decide) (by decide), readScalar, readString_escaped]
    rfl
  | @int levels value low high =>
    have read := readScalar_int low high ends
    obtain ⟨c, text, written, numeral⟩ := write_int value
    have single : c ≠ '[' ∧ c ≠ '\x7b' := by
      constructor <;> exact ne_of_numeral numeral (by decide) (by decide)
    rw [written, List.cons_append] at read ⊢
    rw [readValue_scalar levels (isSpace_numeral numeral) single, read]
  | @arr levels items each ih =>
    cases items with
    | nil => rfl
    | cons first more =>
      obtain ⟨c, text, written, solid, open'⟩ := (each first List.mem_cons_self).opens
      have bound : more.length < (first.write ++ (writeItems false more ++ rest)).length := by
        have least := length_le_writeItems more
        rw [written, List.length_append, List.length_append, List.length_cons]
        omega
      have read := readItems_writeItems (fun item member rest ends => ih item member ends) bound rest
      rw [written, List.cons_append] at read
      rw [write, writeItems, if_pos rfl, List.nil_append, List.cons_append, List.append_assoc, readValue,
        skipSpace_cons _ (by decide), written, List.cons_append]
      simp only [skipSpace_cons _ solid]
      split
      next same => cases same; exact absurd rfl open'
      next => rw [read]; rfl
  | @obj levels fields each ih =>
    cases fields with
    | nil => rfl
    | cons field more =>
      obtain ⟨key, first⟩ := field
      have bound : more.length < (writeString key ++ (':' :: (first.write ++ (writeFields false more ++ rest)))).length := by
        have least := length_le_writeFields more
        simp only [List.length_append, List.length_cons]
        omega
      have read := readFields_writeFields (fun field member rest ends => ih field member ends) bound rest
      rw [writeString_append] at read
      rw [write, writeFields, if_pos rfl, List.nil_append, List.cons_append, List.append_assoc, List.append_assoc, readValue,
        skipSpace_cons _ (by decide), List.cons_append, writeString_append]
      simp only [skipSpace_cons _ (show isSpace '"' = false from rfl)]
      split
      next same => cases same
      next => rw [read]; rfl

theorem read_write {value : Json} (fits : Fits deepest value) : read value.write = some value := by
  have whole := readValue_write fits ends_nil
  rw [List.append_nil] at whole
  rw [read, readWithin, whole]
  rfl

end RStepper.Json
