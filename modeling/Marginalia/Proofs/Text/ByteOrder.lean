import Marginalia.Text.Basic
import Mathlib.Data.Char
import Mathlib.Data.List.Lex

/-!
# The order of bytes

Texts are ordered by their characters, and so are the bytes of their UTF-8 forms:
the form of a greater character has a greater byte where the two forms first
differ.
-/

namespace Marginalia.Text

def bytes (text : Text) : List UInt8 :=
  text.flatMap String.utf8EncodeChar

/-! ## Single characters -/

/-- The bytes of a code point as numbers. -/
def byteValues (code : Nat) : List Nat :=
  if code ≤ 127 then [code]
  else if code ≤ 2047 then [code / 64 % 32 + 192, code % 64 + 128]
  else if code ≤ 65535 then
    [code / 4096 % 16 + 224, code / 64 % 64 + 128, code % 64 + 128]
  else
    [code / 262144 % 8 + 240, code / 4096 % 64 + 128, code / 64 % 64 + 128,
      code % 64 + 128]

theorem utf8EncodeChar_eq (c : Char) :
    String.utf8EncodeChar c = (byteValues c.val.toNat).map UInt8.ofNat := by
  rw [String.utf8EncodeChar, byteValues]
  split
  · rfl
  · split
    · rfl
    · split <;> rfl

theorem byteValues_ne_nil (code : Nat) : byteValues code ≠ [] := by
  rw [byteValues]
  split
  · simp
  · split
    · simp
    · split <;> simp

theorem lt_of_mem_byteValues {code value : Nat}
    (member : value ∈ byteValues code) : value < 256 := by
  rw [byteValues] at member
  split at member
  · simp only [List.mem_singleton] at member
    omega
  · split at member
    · simp only [List.mem_cons, List.not_mem_nil, or_false] at member
      omega
    · split at member <;>
        simp only [List.mem_cons, List.not_mem_nil, or_false] at member <;>
        omega

/-- Two lists differ somewhere, and the first one has the smaller number there. -/
def DiffersBelow : List Nat → List Nat → Prop
  | value :: values, other :: others =>
      value < other ∨ value = other ∧ DiffersBelow values others
  | _, _ => False

theorem differsBelow_byteValues {code other : Nat} (smaller : code < other)
    (valid : other < 1114112) :
    DiffersBelow (byteValues code) (byteValues other) := by
  -- Bytes after the first one are digits to the base 64, cut off one by one.
  have twoDigits (number : Nat) : number / 4096 = number / 64 / 64 := by
    rw [Nat.div_div_eq_div_mul]
  have threeDigits (number : Nat) :
      number / 262144 = number / 64 / 64 / 64 := by
    rw [Nat.div_div_eq_div_mul, Nat.div_div_eq_div_mul]
  rw [byteValues, byteValues]
  split_ifs <;>
    simp only [DiffersBelow, and_false, or_false, twoDigits, threeDigits] <;>
    omega

/-- Whatever follows them, bytes that differ decide the order. -/
theorem DiffersBelow.append_lt {values others : List Nat}
    (differ : DiffersBelow values others) (fits : ∀ other ∈ others, other < 256)
    (left right : List UInt8) :
    values.map UInt8.ofNat ++ left < others.map UInt8.ofNat ++ right := by
  induction values generalizing others with
  | nil =>
      cases others <;> exact differ.elim
  | cons value values inductionHypothesis =>
      cases others with
      | nil => exact differ.elim
      | cons other others =>
          have otherFits : other < 256 := fits other List.mem_cons_self
          rw [List.map_cons, List.map_cons, List.cons_append, List.cons_append,
            List.cons_lt_cons_iff]
          rcases differ with smaller | ⟨rfl, later⟩
          · left
            rw [UInt8.lt_iff_toNat_lt, UInt8.toNat_ofNat_of_lt' otherFits,
              UInt8.toNat_ofNat_of_lt' (Nat.lt_trans smaller otherFits)]
            exact smaller
          · right
            exact ⟨rfl, inductionHypothesis later fun next member =>
              fits next (List.mem_cons_of_mem value member)⟩

theorem utf8EncodeChar_append_lt {c d : Char} (smaller : c < d)
    (left right : List UInt8) :
    String.utf8EncodeChar c ++ left < String.utf8EncodeChar d ++ right := by
  have codeSmaller : c.val.toNat < d.val.toNat :=
    UInt32.lt_iff_toNat_lt.mp smaller
  have valid : d.val.toNat < 1114112 := by
    have scalar := d.valid
    rw [UInt32.isValidChar, Nat.isValidChar] at scalar
    omega
  rw [utf8EncodeChar_eq, utf8EncodeChar_eq]
  exact (differsBelow_byteValues codeSmaller valid).append_lt
    (fun _ => lt_of_mem_byteValues) left right

/-! ## Whole texts -/

@[simp]
theorem bytes_cons (c : Char) (text : Text) :
    bytes (c :: text) = String.utf8EncodeChar c ++ text.bytes :=
  rfl

theorem bytes_lt_of_lt {first second : Text} (smaller : first < second) :
    first.bytes < second.bytes := by
  induction smaller with
  | @nil c rest =>
      have nonempty : String.utf8EncodeChar c ≠ [] := by
        simp [utf8EncodeChar_eq, byteValues_ne_nil]
      obtain ⟨byte, bytes, encoded⟩ := List.exists_cons_of_ne_nil nonempty
      rw [bytes_cons, encoded]
      exact .nil
  | rel here =>
      rw [bytes_cons, bytes_cons]
      exact utf8EncodeChar_append_lt here _ _
  | cons _ inductionHypothesis =>
      rw [bytes_cons, bytes_cons]
      exact List.append_left_lt inductionHypothesis

/-- The order of the bytes is that of the characters. -/
theorem bytes_lt_iff {first second : Text} :
    first.bytes < second.bytes ↔ first < second := by
  refine ⟨fun smaller => ?_, bytes_lt_of_lt⟩
  rcases lt_trichotomy first second with before | same | after
  · exact before
  · rw [same] at smaller
    exact absurd smaller (List.lt_irrefl _)
  · exact absurd smaller (List.lt_asymm (bytes_lt_of_lt after))

/-! ## Sorting -/

theorem isAtMost_iff {first second : Text} :
    first.isAtMost second = true ↔ first ≤ second := by
  have strict :
      second.lex first (fun c d => decide (c < d)) = true ↔ second < first := by
    rw [List.lex_eq_true_iff_lex]
    simp only [decide_eq_true_eq]
    rfl
  rw [isAtMost, Bool.not_eq_true', ← Bool.not_eq_true, strict, not_lt]

theorem isAtMost_trans (first second third : Text)
    (before : first.isAtMost second = true)
    (after : second.isAtMost third = true) : first.isAtMost third = true := by
  rw [isAtMost_iff] at before after ⊢
  exact le_trans before after

theorem isAtMost_total (first second : Text) :
    (first.isAtMost second || second.isAtMost first) = true := by
  rw [Bool.or_eq_true, isAtMost_iff, isAtMost_iff]
  exact le_total first second

/-- Sorted texts that are all different increase strictly. -/
theorem pairwise_lt_mergeSort {texts : List Text} (distinct : texts.Nodup) :
    (texts.mergeSort isAtMost).Pairwise (· < ·) := by
  have sorted := List.pairwise_mergeSort isAtMost_trans isAtMost_total texts
  have stillDistinct : (texts.mergeSort isAtMost).Nodup :=
    (List.mergeSort_perm texts isAtMost).nodup_iff.mpr distinct
  refine (sorted.and stillDistinct).imp fun {first second} order => ?_
  exact lt_of_le_of_ne (isAtMost_iff.mp order.1) order.2

/-- Sorting forgets the order of the texts. -/
theorem mergeSort_congr {texts others : List Text} (order : texts.Perm others) :
    texts.mergeSort isAtMost = others.mergeSort isAtMost := by
  refine List.Perm.eq_of_pairwise ?_
    (List.pairwise_mergeSort isAtMost_trans isAtMost_total texts)
    (List.pairwise_mergeSort isAtMost_trans isAtMost_total others)
    ((List.mergeSort_perm texts isAtMost).trans
      (order.trans (List.mergeSort_perm others isAtMost).symm))
  intro first second _ _ forward backward
  exact le_antisymm (isAtMost_iff.mp forward) (isAtMost_iff.mp backward)

end Marginalia.Text
