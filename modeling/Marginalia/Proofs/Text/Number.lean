import Marginalia.Text.DecimalDigit
import Marginalia.Proofs.Text.Trim

/-!
# Numbers in a text

ASCII digits denote a number, and reading them gives this number.  Leading zeros do
not change it.  The digits of all scripts are visible characters.
-/

namespace Marginalia

theorem isWhiteSpace_eq_false_of_isDecimalDigit {c : Char}
    (digit : isDecimalDigit c = true) : isWhiteSpace c = false := by
  refine CodePointRanges.contains_eq_false_of_apart ?_ digit
  decide

theorem isDigit_iff {c : Char} :
    c.isDigit = true ↔ 48 ≤ c.toNat ∧ c.toNat ≤ 57 := by
  simp [Char.isDigit, UInt32.le_iff_toNat_le]

theorem isDecimalDigit_of_isDigit {c : Char} (digit : c.isDigit = true) :
    isDecimalDigit c = true := by
  obtain ⟨atLeast, atMost⟩ := isDigit_iff.mp digit
  refine List.any_eq_true.mpr ⟨(0x30, 0x39), List.mem_cons_self, ?_⟩
  simp only [Bool.and_eq_true, decide_eq_true_eq]
  exact ⟨atLeast, atMost⟩

namespace Text

variable {digits : Text} {number : Nat}

/-- A text of ASCII digits denotes a number. -/
def Denotes (digits : Text) (number : Nat) : Prop :=
  (∀ c ∈ digits, c.isDigit = true) ∧ Nat.ofDigitChars 10 digits 0 = number

theorem Denotes.isDecimalDigit (denotes : digits.Denotes number) :
    ∀ c ∈ digits, isDecimalDigit c = true :=
  fun c member => isDecimalDigit_of_isDigit (denotes.1 c member)

theorem stopsRun_of_isDecimalDigit
    (all : ∀ c ∈ digits, isDecimalDigit c = true) : StopsRun isWhiteSpace digits :=
  stopsRun_of_outside fun c member =>
    isWhiteSpace_eq_false_of_isDecimalDigit (all c member)

/-! ## Reading -/

theorem digitValue?_of_isDigit {c : Char} (digit : c.isDigit = true) :
    digitValue? 10 c = some (c.toNat - '0'.toNat) := by
  obtain ⟨atLeast, atMost⟩ := isDigit_iff.mp digit
  have inRange : ('0' ≤ c && c ≤ '9') = true := by
    simpa [Char.isDigit, Char.le_def] using digit
  have belowBase : decide (c.toNat - '0'.toNat < 10) = true := by
    rw [decide_eq_true_iff]
    show c.toNat - 48 < 10
    omega
  rw [digitValue?, inRange]
  exact Option.filter_some_pos belowBase

theorem readDigitsFrom?_of_isDigit (all : ∀ c ∈ digits, c.isDigit = true)
    (value : Nat) :
    readDigitsFrom? 10 value digits = some (Nat.ofDigitChars 10 digits value) := by
  induction digits generalizing value with
  | nil =>
      rw [readDigitsFrom?, Nat.ofDigitChars_nil]
  | cons c digits inductionHypothesis =>
      obtain ⟨here, later⟩ := List.forall_mem_cons.mp all
      rw [readDigitsFrom?, digitValue?_of_isDigit here, Nat.ofDigitChars_cons,
        Nat.mul_comm 10 value]
      exact inductionHypothesis later _

theorem readDigits?_eq_some_iff (all : ∀ c ∈ digits, c.isDigit = true) :
    readDigits? 10 digits = some number ↔ digits ≠ [] ∧ digits.Denotes number := by
  rw [readDigits?, readDigitsFrom?_of_isDigit all]
  by_cases empty : digits = []
  · simp [empty]
  · simp only [List.isEmpty_iff, empty, if_false, Option.some.injEq, ne_eq,
      not_false_eq_true, true_and]
    exact ⟨fun valueEq => ⟨all, valueEq⟩, fun denotes => denotes.2⟩

/-! ## Writing -/

/-- A number in decimal notation denotes itself, with or without leading zeros. -/
theorem denotes_leftpad (width number : Nat) :
    Denotes ((Text.ofNat number).leftpad width '0') number := by
  constructor
  · intro c member
    rcases List.mem_append.mp member with zero | digit
    · rw [List.eq_of_mem_replicate zero]
      rfl
    · exact Nat.isDigit_of_mem_toDigits (by decide) (by decide) digit
  · rw [List.leftpad, Nat.ofDigitChars_append, Nat.ofDigitChars_replicate_zero,
      Nat.mul_zero, ofNat, Nat.ofDigitChars_ten_toDigits]

end Text

end Marginalia
