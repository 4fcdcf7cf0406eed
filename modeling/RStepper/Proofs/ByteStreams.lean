import RStepper.Text.ByteLine
import RStepper.Text.Lines

/-! Texts as bytes. Decoding takes back what encoding gave, character by character, and the lines of encoded
texts are the encoded lines. -/

namespace RStepper.Text
namespace Utf8

/-- The characters that the decoder has room for. -/
theorem code_cases (c : Char) : c.toNat < 0xD800 ∨ (0xDFFF < c.toNat ∧ c.toNat < 0x110000) := c.valid

theorem toNat_toUInt8 {code : Nat} (small : code < 0x100) : code.toUInt8.toNat = code := by
  simpa using Nat.mod_eq_of_lt small

theorem decodeFrom_last {low high value byte code : Nat} (rest : List UInt8) (small : byte < 0x100)
    (within : low ≤ byte ∧ byte ≤ high) (whole : value * 0x40 + (byte - 0x80) = code) :
    decodeFrom (.inside 1 low high value) (byte.toUInt8 :: rest) = (decodeFrom .between rest).map (Char.ofNat code :: ·) := by
  simp [decodeFrom, advance, toNat_toUInt8 small, within, whole]

theorem decodeFrom_inner {owed low high value byte grown : Nat} (rest : List UInt8) (small : byte < 0x100)
    (more : 1 < owed) (within : low ≤ byte ∧ byte ≤ high) (whole : value * 0x40 + (byte - 0x80) = grown) :
    decodeFrom (.inside owed low high value) (byte.toUInt8 :: rest) =
      decodeFrom (.inside (owed - 1) 0x80 0xBF grown) rest := by
  simp [decodeFrom, advance, toNat_toUInt8 small, within, whole, Nat.not_le.mpr more]

theorem decodeFrom_lead {byte owed low high value : Nat} (rest : List UInt8) (small : byte < 0x100)
    (leads : lead byte = some (none, .inside owed low high value)) :
    decodeFrom .between (byte.toUInt8 :: rest) = decodeFrom (.inside owed low high value) rest := by
  simp [decodeFrom, advance, toNat_toUInt8 small, leads]

theorem lead_of_three {code : Nat} (least : 0x800 ≤ code) (most : code < 0x10000) (apart : code < 0xD800 ∨ 0xDFFF < code) :
    ∃ low high, lead (0xE0 + code / 0x1000) = some (none, .inside 2 low high (code / 0x1000)) ∧
      low ≤ 0x80 + code / 0x40 % 0x40 ∧ 0x80 + code / 0x40 % 0x40 ≤ high := by
  by_cases first : code / 0x1000 = 0
  · exact ⟨0xA0, 0xBF, by simp [lead, first], by omega, by omega⟩
  by_cases surrogates : code / 0x1000 = 0xD
  · exact ⟨0x80, 0x9F, by simp [lead, surrogates], by omega, by omega⟩
  refine ⟨0x80, 0xBF, ?_, by omega, by omega⟩
  unfold lead
  rw [if_neg (by omega), if_neg (by omega), if_neg (by omega), if_neg (by omega), if_neg (by omega), if_pos (by omega),
    Nat.add_sub_cancel_left]

theorem lead_of_four {code : Nat} (least : 0x10000 ≤ code) (most : code < 0x110000) :
    ∃ low high, lead (0xF0 + code / 0x40000) = some (none, .inside 3 low high (code / 0x40000)) ∧
      low ≤ 0x80 + code / 0x1000 % 0x40 ∧ 0x80 + code / 0x1000 % 0x40 ≤ high := by
  by_cases first : code / 0x40000 = 0
  · exact ⟨0x90, 0xBF, by simp [lead, first], by omega, by omega⟩
  by_cases last : code / 0x40000 = 4
  · exact ⟨0x80, 0x8F, by simp [lead, last], by omega, by omega⟩
  refine ⟨0x80, 0xBF, ?_, by omega, by omega⟩
  unfold lead
  rw [if_neg (by omega), if_neg (by omega), if_neg (by omega), if_neg (by omega), if_neg (by omega), if_neg (by omega),
    if_neg (by omega), if_pos (by omega), Nat.add_sub_cancel_left]

theorem decodeFrom_encodeChar (c : Char) (rest : List UInt8) :
    decodeFrom .between (encodeChar c ++ rest) = (decodeFrom .between rest).map (c :: ·) := by
  have valid := code_cases c
  have same := Char.ofNat_toNat c
  unfold encodeChar
  generalize c.toNat = code at valid same ⊢
  subst same
  dsimp only
  split
  next one => simp [decodeFrom, advance, toNat_toUInt8 (Nat.lt_trans one (by decide)), lead, one]
  next several =>
  split
  next two =>
    have leads : lead (0xC0 + code / 0x40) = some (none, .inside 1 0x80 0xBF (code / 0x40)) := by
      unfold lead
      rw [if_neg (by omega), if_neg (by omega), if_pos (by omega), Nat.add_sub_cancel_left]
    exact (decodeFrom_lead _ (by omega) leads).trans (decodeFrom_last _ (by omega) (by omega) (by omega))
  next many =>
  split
  next three =>
    obtain ⟨low, high, leads, within⟩ := lead_of_three (by omega) three (by omega)
    refine (decodeFrom_lead _ (by omega) leads).trans ((decodeFrom_inner _ (by omega) (by omega) within rfl).trans ?_)
    exact decodeFrom_last _ (by omega) (by omega) (by omega)
  next four =>
    obtain ⟨low, high, leads, within⟩ := lead_of_four (Nat.le_of_not_lt four) (by omega)
    refine (decodeFrom_lead _ (by omega) leads).trans ((decodeFrom_inner _ (by omega) (by omega) within rfl).trans ?_)
    refine (decodeFrom_inner _ ?_ ?_ ?_ rfl).trans (decodeFrom_last _ ?_ ?_ ?_) <;> omega

theorem decode?_encode (text : List Char) : decode? (encode text) = some text := by
  induction text with
  | nil => rfl
  | cons c rest ih =>
    change decodeFrom .between (encodeChar c ++ encode rest) = _
    rw [decodeFrom_encodeChar, ← decode?, ih]
    rfl

theorem length_encodeChar (c : Char) : (encodeChar c).length = c.utf8Size := by
  unfold encodeChar Char.utf8Size
  simp only [UInt32.le_iff_toNat_le]
  change _ = if c.toNat ≤ 127 then 1 else if c.toNat ≤ 2047 then 2 else if c.toNat ≤ 65535 then 3 else 4
  generalize c.toNat = code
  grind

theorem length_encode (text : List Char) : (encode text).length = byteLength text := by
  induction text with
  | nil => rfl
  | cons c rest ih =>
    change (encodeChar c ++ encode rest).length = _
    rw [List.length_append, length_encodeChar, ih, byteLength_cons]

theorem lf_mem_encode {text : List Char} : 0x0A ∈ encode text ↔ '\n' ∈ text := by
  have one (c : Char) : 0x0A ∈ encodeChar c ↔ c = '\n' := by
    have valid := code_cases c
    have break_iff : c = '\n' ↔ c.toNat = 10 := by rw [← Char.toNat_inj]; rfl
    have byte (code : Nat) : (0x0A : UInt8) = code.toUInt8 ↔ code % 0x100 = 10 := by
      rw [← UInt8.toNat_inj]
      simp only [Nat.toUInt8, UInt8.toNat_ofNat', UInt8.reduceToNat]
      omega
    rw [break_iff]
    unfold encodeChar
    generalize c.toNat = code at valid ⊢
    dsimp only
    split
    · simp only [List.mem_singleton, byte]
      omega
    split
    · simp only [List.mem_cons, List.not_mem_nil, or_false, byte]
      omega
    split
    · simp only [List.mem_cons, List.not_mem_nil, or_false, byte]
      omega
    · simp only [List.mem_cons, List.not_mem_nil, or_false, byte]
      omega
  simp [encode, one]

end Utf8

theorem splitByteLine_ended {line : List UInt8} (unbroken : 0x0A ∉ line) (rest : List UInt8) :
    splitByteLine (line ++ 0x0A :: rest) = (line ++ [0x0A], rest) := by
  induction line with
  | nil => rfl
  | cons byte line ih =>
    simp only [List.mem_cons, not_or] at unbroken
    rw [List.cons_append, splitByteLine, if_neg (Ne.symm unbroken.1), ih unbroken.2]
    rfl

theorem splitByteLine_append_of_ne_nil {bytes : List UInt8} (behind : (splitByteLine bytes).2 ≠ []) (more : List UInt8) :
    splitByteLine (bytes ++ more) = ((splitByteLine bytes).1, (splitByteLine bytes).2 ++ more) := by
  induction bytes with
  | nil => exact absurd rfl behind
  | cons byte rest ih =>
    unfold splitByteLine at behind ⊢
    rw [List.cons_append]
    dsimp only at behind ⊢
    split at behind
    next last => rw [if_pos last, if_pos last]
    next further =>
      rw [if_neg further, if_neg further, ih behind]

theorem splitByteLine_encode {line : List Char} (unbroken : '\n' ∉ line) (rest : List UInt8) :
    splitByteLine (Utf8.encode (line ++ ['\n']) ++ rest) = (Utf8.encode (line ++ ['\n']), rest) := by
  have inside : (0x0A : UInt8) ∉ Utf8.encode line := fun mem => unbroken (Utf8.lf_mem_encode.mp mem)
  have cut := splitByteLine_ended inside rest
  rw [Utf8.encode_append]
  change splitByteLine (Utf8.encode line ++ [0x0A] ++ rest) = _
  rw [List.append_assoc]
  exact cut

theorem readByteLine_encode (line : List Char) : readByteLine (Utf8.encode line) = .ok line := by
  rw [readByteLine, Utf8.decode?_encode]

end RStepper.Text
