import Marginalia.Proofs.Highlight.Source

/-!
# Places in highlighted code

A text that no tag can hold stands in highlighted code only inside one segment, in
the escaped text of that segment.  Two segments of plain text never follow one
another, so no place of the text reaches across their border.
-/

namespace Marginalia.Highlight

namespace Segment

/-- The HTML of a segment before its text. -/
def opening (segment : Segment) : Text :=
  match segment.className? with
  | none => []
  | some name => Divider.openingTag name

/-- The HTML of a segment after its text. -/
def closing (segment : Segment) : Text :=
  match segment.className? with
  | none => []
  | some _ => Divider.tokenEnd

theorem render_eq (segment : Segment) :
    segment.render =
      segment.opening ++ (Html.escape segment.text ++ segment.closing) := by
  obtain ⟨text, name?⟩ := segment
  cases name? with
  | none =>
      simp [render, opening, closing]
  | some name =>
      have renderEq :
          render ⟨text, some name⟩ =
            Divider.openingTag name ++ Html.escape text ++ Divider.tokenEnd :=
        rfl
      rw [renderEq, List.append_assoc]
      rfl

end Segment

/-- A piece stands in the text of a segment, with the given HTML around it. -/
def StandsIn (piece : Text) (segments : List Segment) (segment : Segment)
    (before after : Text) : Prop :=
  ∃ earlier later left right,
    segments = earlier ++ segment :: later ∧
    Html.escape segment.text = left ++ (piece ++ right) ∧
    before = earlier.flatMap Segment.render ++ (segment.opening ++ left) ∧
    after = right ++ (segment.closing ++ later.flatMap Segment.render)

variable {piece before after : Text} {segments : List Segment}
  {segment : Segment}

theorem StandsIn.append (standing : StandsIn piece segments segment before after)
    (earlier : List Segment) :
    StandsIn piece (earlier ++ segments) segment
      (earlier.flatMap Segment.render ++ before) after := by
  obtain ⟨between, later, left, right, rfl, textEq, rfl, rfl⟩ := standing
  refine ⟨earlier ++ between, later, left, right, ?_, textEq, ?_, rfl⟩
  · rw [List.append_assoc]
  · rw [List.flatMap_append, List.append_assoc]

/-- Every place of a text with a capital letter lies in the text of a segment. -/
theorem exists_standsIn (noTag : ∀ c ∈ ['<', '>', '"'], c ∉ piece)
    (capital : 'D' ∈ piece) {position : Nat} {code : Text} {spans : List Span}
    (known : ∀ span ∈ spans, span.className ∈ classNames)
    (whole : markupFrom position code spans = before ++ (piece ++ after)) :
    ∃ segment,
      StandsIn piece (segmentsFrom position code spans) segment before after := by
  induction spans generalizing position code before with
  | nil =>
      rw [markupFrom_nil] at whole
      refine ⟨⟨code, none⟩, [], [], before, after, rfl, whole, rfl, ?_⟩
      simp [Segment.closing]
  | cons span spans inductionHypothesis =>
      have laterKnown : ∀ span ∈ spans, span.className ∈ classNames :=
        fun span member => known span (List.mem_cons_of_mem _ member)
      cases cut : span.cut? position code with
      | none =>
          rw [markupFrom_of_skip cut] at whole
          rw [segmentsFrom_of_skip cut]
          exact inductionHypothesis laterKnown whole
      | some parts =>
          obtain ⟨plain, inside, rest⟩ := parts
          rw [segmentsFrom_of_cut cut]
          rw [markupFrom_of_cut cut] at whole
          have plainEq :
              Html.escape plain = [⟨plain, none⟩].flatMap Segment.render := by
            simp [Segment.render]
          -- The tag of the token divides the plain text from what follows it.
          rcases Text.append_cons_eq_append_cases (noTag '<' (by decide)) whole
            with ⟨more, textEq, afterEq⟩ | ⟨more, beforeEq, tokenEq⟩
          · refine ⟨⟨plain, none⟩, [], _, before, more, rfl, textEq, rfl, ?_⟩
            rw [afterEq]
            rfl
          · have tokenWhole :
                Segment.render ⟨inside, some span.className⟩ ++
                    markupFrom span.stop rest spans =
                  '<' :: more ++ (piece ++ after) := by
              rw [List.cons_append, ← tokenEq]
              rfl
            rcases place_token_append noTag capital
                (known span List.mem_cons_self) tokenWhole with
              ⟨left, right, textEq, openingEq, afterEq⟩ |
              ⟨later, moreEq, restEq⟩
            · refine ⟨⟨inside, some span.className⟩, [⟨plain, none⟩],
                segmentsFrom span.stop rest spans, left, right, rfl, textEq, ?_,
                afterEq⟩
              rw [beforeEq, openingEq, plainEq]
              rfl
            · obtain ⟨segment, standing⟩ :=
                inductionHypothesis laterKnown restEq
              refine ⟨segment, ?_⟩
              have appended :=
                standing.append
                  [⟨plain, none⟩, ⟨inside, some span.className⟩]
              rw [beforeEq, moreEq]
              simpa [plainEq] using appended

end Marginalia.Highlight
