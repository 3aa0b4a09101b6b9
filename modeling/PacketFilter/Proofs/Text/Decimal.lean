import PacketFilter.Proofs.Text.Words

/-!
# Numerals that are read back

A number is written with digits of its base only and without a sign or a zero in front, and its
digits give the number back. A decimal one is taken for a position.
-/
namespace PacketFilter

namespace Text

/-- A decimal digit is between the first and the last of them. -/
theorem isDigit_iff {char : Char} : char.isDigit = true ↔ '0' ≤ char ∧ char ≤ '9' := by
  simp [Char.isDigit, Char.le_def]

/-- A decimal digit is not blank. -/
theorem isBlank_of_isDigit {char : Char} (digit : char.isDigit = true) : isBlank char = false := by
  obtain ⟨least, greatest⟩ := isDigit_iff.1 digit
  have low : 48 ≤ char.toNat := least
  have high : char.toNat ≤ 57 := greatest
  exact isBlank_of_visible (by omega) (by omega)

/-- The character of a digit is read as that digit. -/
theorem digitValue?_digitChar : ∀ digit < 16, digitValue? digit.digitChar = some digit := by
  decide

section Base

variable {base : Nat} (least : 1 < base) (most : base ≤ 16)
include least most

/-- The digits of a number are taken for the number. -/
theorem foldlM_pushDigit?_toDigits (number : Nat) :
    (Nat.toDigits base number).foldlM (pushDigit? base) 0 = some number := by
  induction number using Nat.strongRecOn with
  | ind number ih =>
    rw [Nat.toDigits_eq_if least]
    split
    · next small =>
      have value := digitValue?_digitChar number (by omega)
      simp [pushDigit?, value, small]
    · next large =>
      have fewer : number / base < number := Nat.div_lt_self (by omega) least
      have small : number % base < base := Nat.mod_lt _ (by omega)
      have value := digitValue?_digitChar (number % base) (by omega)
      rw [List.foldlM_append, ih _ fewer]
      simp [pushDigit?, value, small, Nat.div_add_mod']

/-- The digits of a number are read as the number. -/
theorem readNumeral?_toDigits (number : Nat) :
    readNumeral? base (Nat.toDigits base number) = some number := by
  have nonempty : (Nat.toDigits base number).isEmpty = false := by simp
  rw [readNumeral?, nonempty, if_neg Bool.false_ne_true,
    foldlM_pushDigit?_toDigits least most]

/-- A number is written with digits of its base. -/
theorem digitValue?_of_mem_toDigits {number : Nat} {char : Char}
    (member : char ∈ Nat.toDigits base number) : ∃ digit < base, digitValue? char = some digit := by
  induction number using Nat.strongRecOn with
  | ind number ih =>
    rw [Nat.toDigits_eq_if least] at member
    split at member
    · next small =>
      rw [List.mem_singleton.1 member]
      exact ⟨number, small, digitValue?_digitChar number (by omega)⟩
    · next large =>
      rcases List.mem_append.1 member with first | last
      · exact ih _ (Nat.div_lt_self (by omega) least) first
      · have small : number % base < base := Nat.mod_lt _ (by omega)
        rw [List.mem_singleton.1 last]
        exact ⟨_, small, digitValue?_digitChar _ (by omega)⟩

/-- What is no digit is not in a written number. -/
theorem notMem_toDigits {char : Char} (noDigit : digitValue? char = none) (number : Nat) :
    char ∉ Nat.toDigits base number := by
  intro member
  obtain ⟨digit, -, value⟩ := digitValue?_of_mem_toDigits least most member
  exact Option.some_ne_none digit (value.symm.trans noDigit)

end Base

/-- Only zero is written with a zero in front. -/
theorem head?_toDigits {base : Nat} (least : 1 < base) (number : Nat) :
    (Nat.toDigits base number).head? = some '0' ↔ number = 0 := by
  induction number using Nat.strongRecOn with
  | ind number ih =>
    rw [Nat.toDigits_eq_if least]
    split
    · simp
    · next large =>
      have fewer : number / base < number := Nat.div_lt_self (by omega) least
      have positive : 0 < number / base := Nat.div_pos (by omega) (by omega)
      have front := List.head?_eq_some_head (Nat.toDigits_ne_nil (n := number / base) (b := base))
      rw [List.head?_append, front, Option.some_or, ← front, ih _ fewer]
      omega

/-- A numeral is made of decimal digits. -/
theorem isDigit_of_mem_toString {number : Nat} {char : Char}
    (member : char ∈ (toString number).toList) : char.isDigit = true := by
  rw [Nat.toString_eq_repr, Nat.toList_repr] at member
  exact Nat.isDigit_of_mem_toDigits (by decide) (by decide) member

/-- A numeral is read as the number that it writes. -/
theorem readNumeral?_toString (number : Nat) :
    readNumeral? 10 (toString number).toList = some number := by
  rw [Nat.toString_eq_repr, Nat.toList_repr]
  exact readNumeral?_toDigits (by decide) (by decide) number

/-- The value of a decimal digit is its distance from the first of them. -/
theorem digitValue?_of_isDigit {char : Char} (digit : char.isDigit = true) :
    digitValue? char = some (char.toNat - '0'.toNat) ∧ char.toNat - '0'.toNat < 10 := by
  obtain ⟨least, greatest⟩ := isDigit_iff.1 digit
  have high : char.toNat ≤ 57 := greatest
  have first : '0'.toNat = 48 := rfl
  exact ⟨by simp [digitValue?, least, greatest], by omega⟩

/-- Decimal digits are read as the number that they denote. -/
theorem readNumeral?_of_isDigit {digits : List Char} (nonempty : digits ≠ [])
    (decimal : ∀ char ∈ digits, char.isDigit = true) :
    readNumeral? 10 digits = some (Nat.ofDigitChars 10 digits 0) := by
  have pushed : ∀ value, digits.foldlM (pushDigit? 10) value =
      some (Nat.ofDigitChars 10 digits value) := by
    clear nonempty
    induction digits with
    | nil => exact fun _ => rfl
    | cons char rest ih =>
      intro value
      obtain ⟨isValue, small⟩ := digitValue?_of_isDigit (decimal char List.mem_cons_self)
      have one : pushDigit? 10 value char = some (10 * value + (char.toNat - '0'.toNat)) := by
        simpa [pushDigit?, isValue, Nat.mul_comm] using small
      rw [List.foldlM_cons, one, Nat.ofDigitChars_cons]
      exact ih (fun other member => decimal other (List.mem_cons_of_mem _ member)) _
  have some : digits.isEmpty = false := List.isEmpty_eq_false_iff.2 nonempty
  rw [readNumeral?, some, if_neg Bool.false_ne_true, pushed]

end Text

open Text

/-- A numeral is taken for a position. -/
theorem isIndex_toString (number : Nat) : isIndex (toString number) = true := by
  have nonempty : (toString number).toList.isEmpty = false := by simp
  rw [isIndex, nonempty, Bool.not_false, Bool.true_and, List.all_eq_true]
  intro char member
  simpa using isDigit_iff.1 (isDigit_of_mem_toString member)

/-- A numeral that fits in a machine word is read as its number. -/
theorem readIndex_toString {number : Nat} (fits : number < wordLimit) :
    readIndex (toString number) = .ok number := by
  rw [readIndex, readNumeral?_toString]
  exact if_pos fits

end PacketFilter
