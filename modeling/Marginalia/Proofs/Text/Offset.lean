import Marginalia.Text.Basic

/-!
# Byte offsets in joined texts

A cut of a joined text at a byte offset is a cut of the part in which the
offset lies.
-/

namespace Marginalia.Text

@[simp]
theorem byteLength_append (left right : Text) :
    byteLength (left ++ right) = byteLength left + byteLength right := by
  induction left with
  | nil =>
      simp [byteLength]
  | cons c left inductionHypothesis =>
      rw [List.cons_append, byteLength, byteLength, inductionHypothesis,
        Nat.add_assoc]

@[simp]
theorem byteLength_lineFeed : byteLength ['\n'] = 1 := by
  decide

/-- The two parts of a cut are the text, and the first has the length of the
offset. -/
theorem cutAtByte?_eq_some {text before after : Text} {offset : Nat}
    (cut : cutAtByte? text offset = some (before, after)) :
    text = before ++ after ∧ byteLength before = offset := by
  induction text generalizing offset before with
  | nil =>
      cases offset with
      | zero =>
          cases cut
          exact ⟨rfl, rfl⟩
      | succ offset =>
          cases cut
  | cons c text inductionHypothesis =>
      cases offset with
      | zero =>
          cases cut
          exact ⟨rfl, rfl⟩
      | succ offset =>
          rw [cutAtByte?] at cut
          split at cut
          · next fits =>
              obtain ⟨⟨before', after'⟩, cutRest, same⟩ :=
                Option.map_eq_some_iff.mp cut
              cases same
              obtain ⟨rfl, length⟩ := inductionHypothesis cutRest
              refine ⟨rfl, ?_⟩
              rw [byteLength, length]
              omega
          · cases cut

/-- An offset that is not beyond the first text cuts the first text. -/
theorem cutAtByte?_append_of_le (left right : Text) (offset : Nat)
    (within : offset ≤ byteLength left) :
    cutAtByte? (left ++ right) offset =
      (cutAtByte? left offset).map
        fun (before, after) => (before, after ++ right) := by
  induction left generalizing offset with
  | nil =>
      obtain rfl : offset = 0 := Nat.le_zero.mp within
      simp [cutAtByte?]
  | cons c left inductionHypothesis =>
      cases offset with
      | zero =>
          simp [cutAtByte?]
      | succ offset =>
          rw [List.cons_append, cutAtByte?, cutAtByte?]
          split
          · rw [byteLength] at within
            rw [inductionHypothesis _ (by omega), Option.map_map,
              Option.map_map]
            rfl
          · rfl

/-- An offset that is not before the end of the first text cuts the second
text. -/
theorem cutAtByte?_append_add (left right : Text) (offset : Nat) :
    cutAtByte? (left ++ right) (byteLength left + offset) =
      (cutAtByte? right offset).map
        fun (before, after) => (left ++ before, after) := by
  induction left with
  | nil =>
      simp [byteLength]
  | cons c left inductionHypothesis =>
      have positive : 0 < c.utf8Size := c.utf8Size_pos
      obtain ⟨total, totalEq⟩ :
          ∃ total, byteLength (c :: left) + offset = total + 1 :=
        Nat.exists_eq_add_one.mpr (by rw [byteLength]; omega)
      have rest :
          total + 1 - c.utf8Size = byteLength left + offset := by
        rw [← totalEq, byteLength]
        omega
      have fits : c.utf8Size ≤ total + 1 := by
        rw [← totalEq, byteLength]
        omega
      rw [totalEq, List.cons_append, cutAtByte?, if_pos fits, rest,
        inductionHypothesis, Option.map_map]
      rfl

end Marginalia.Text
