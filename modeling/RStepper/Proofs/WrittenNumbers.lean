import RStepper.Proofs.TrimmedTexts
import RStepper.Text.Number

/-! Written numbers. A number is read from a text exactly if the text is its decimal digits, with or without a sign,
and it is in range. -/

namespace RStepper.Text

/-- A whole number as it can be written: decimal digits, with a sign or without. -/
inductive Numeral : List Char → Int → Prop where
  | unsigned {digits} (nonempty : digits ≠ []) (decimal : ∀ c ∈ digits, c.isDigit = true) :
      Numeral digits (Nat.ofDigitChars 10 digits 0)
  | plus {digits} (nonempty : digits ≠ []) (decimal : ∀ c ∈ digits, c.isDigit = true) :
      Numeral ('+' :: digits) (Nat.ofDigitChars 10 digits 0)
  | minus {digits} (nonempty : digits ≠ []) (decimal : ∀ c ∈ digits, c.isDigit = true) :
      Numeral ('-' :: digits) (-(Nat.ofDigitChars 10 digits 0 : Nat))

/-- A written number that is in the range of line numbers. -/
def LineNumber (text : List Char) (line : Int) : Prop :=
  Numeral text line ∧ -2147483648 ≤ line ∧ line ≤ 2147483647

theorem digitsValue_eq (digits : List Char) : digitsValue digits = Nat.ofDigitChars 10 digits 0 := by
  rw [digitsValue, Nat.ofDigitChars_eq_foldl]
  congr 1
  funext value c
  rw [Nat.mul_comm]

theorem readDigits?_eq_some_iff {text : List Char} {value : Nat} : readDigits? text = some value ↔
    (text ≠ [] ∧ ∀ c ∈ text, c.isDigit = true) ∧ Nat.ofDigitChars 10 text 0 = value := by
  unfold readDigits?
  rw [Option.ite_none_right_eq_some, Option.some_inj, digitsValue_eq, List.all_eq_true]

theorem readCount?_toDigits {count : Nat} (small : count < wordLimit) : readCount? (Nat.toDigits 10 count) = some count := by
  have digits : ∀ c ∈ Nat.toDigits 10 count, c.isDigit = true :=
    fun c member => Nat.isDigit_of_mem_toDigits (by decide) (by decide) member
  have value : digitsValue (Nat.toDigits 10 count) = count :=
    (digitsValue_eq _).trans (Nat.ofDigitChars_toDigits (by decide) (by decide))
  have read : readDigits? (Nat.toDigits 10 count) = some count := by
    rw [readDigits?, if_pos ⟨Nat.toDigits_ne_nil, List.all_eq_true.mpr digits⟩, value]
  unfold readCount?
  split
  next rest signed =>
    have digit := digits '+' (by rw [signed]; exact List.mem_cons_self)
    cases digit
  next => simp [read, small]

theorem ne_cons_of_decimal {digits : List Char} (decimal : ∀ c ∈ digits, c.isDigit = true) {sign : Char}
    (other : sign.isDigit = false) (rest : List Char) : digits ≠ sign :: rest := by
  rintro rfl
  have digit := decimal sign List.mem_cons_self
  rw [other] at digit
  cases digit

theorem readInt?_eq_some_iff {lowest highest : Int} {text : List Char} {number : Int} :
    readInt? lowest highest text = some number ↔ Numeral text number ∧ lowest ≤ number ∧ number ≤ highest := by
  unfold readInt?
  simp only [Option.filter_eq_some_iff, Bool.and_eq_true, decide_eq_true_eq, and_congr_left_iff]
  intro _
  constructor
  · intro read
    split at read <;> obtain ⟨value, digits, rfl⟩ := Option.map_eq_some_iff.mp read <;>
      obtain ⟨⟨nonempty, decimal⟩, rfl⟩ := readDigits?_eq_some_iff.mp digits
    · exact .minus nonempty decimal
    · exact .plus nonempty decimal
    · exact .unsigned nonempty decimal
  · intro numeral
    cases numeral with
    | unsigned nonempty decimal =>
      split
      · exact absurd rfl (ne_cons_of_decimal decimal rfl _)
      · exact absurd rfl (ne_cons_of_decimal decimal rfl _)
      · exact Option.map_eq_some_iff.mpr ⟨_, readDigits?_eq_some_iff.mpr ⟨⟨nonempty, decimal⟩, rfl⟩, rfl⟩
    | plus nonempty decimal | minus nonempty decimal =>
      exact Option.map_eq_some_iff.mpr ⟨_, readDigits?_eq_some_iff.mpr ⟨⟨nonempty, decimal⟩, rfl⟩, rfl⟩

/-- The line number that is written in a text is read from it, and no other. -/
theorem readLine?_eq_some_iff {text : List Char} {line : Int} : readLine? text = some line ↔ LineNumber text line :=
  readInt?_eq_some_iff

/-- Every line number is written by its decimal digits, with a minus sign in front of them if it is negative. -/
theorem lineNumber_toString (number : Int32) : LineNumber (toString number.toInt).toList number.toInt := by
  refine ⟨?_, number.le_toInt, Int.le_of_lt_add_one number.toInt_lt⟩
  have digits (value : Nat) : Nat.toDigits 10 value ≠ [] ∧ ∀ c ∈ Nat.toDigits 10 value, c.isDigit = true :=
    ⟨Nat.toDigits_ne_nil, fun c member => Nat.isDigit_of_mem_toDigits (by decide) (by decide) member⟩
  rw [Int.toString_eq_repr]
  cases number.toInt with
  | ofNat value =>
    have numeral := Numeral.unsigned (digits value).1 (digits value).2
    rw [Nat.ofDigitChars_ten_toDigits] at numeral
    simpa [Int.repr] using numeral
  | negSucc value =>
    have numeral := Numeral.minus (digits (value + 1)).1 (digits (value + 1)).2
    rw [Nat.ofDigitChars_ten_toDigits] at numeral
    simpa [Int.repr, Int.negSucc_eq] using numeral

theorem isBlank_of_isDigit {c : Char} (digit : c.isDigit = true) : isBlank c = false := by
  simp only [Char.isDigit, Bool.and_eq_true, decide_eq_true_eq, UInt32.le_iff_toNat_le] at digit
  have bounds : 48 ≤ c.toNat ∧ c.toNat ≤ 57 := digit
  simp only [isBlank, Bool.or_eq_false_iff, Bool.and_eq_false_iff, decide_eq_false_iff_not, beq_eq_false_iff_ne]
  omega

theorem Numeral.isWord {text : List Char} {line : Int} (numeral : Numeral text line) : IsWord text := by
  cases numeral with
  | unsigned nonempty decimal => exact ⟨nonempty, fun c member => isBlank_of_isDigit (decimal c member)⟩
  | plus nonempty decimal | minus nonempty decimal =>
    refine ⟨by simp, fun c member => ?_⟩
    rcases List.mem_cons.mp member with rfl | member
    · rfl
    · exact isBlank_of_isDigit (decimal c member)

end RStepper.Text
