import Marginalia.Proofs.Highlight.Markup
import Marginalia.Proofs.Text.Offset

/-!
# Rendering code in parts

Where no span reaches across the border of two parts of the code, each part is
rendered as if it stood alone.  What is rendered is markup, and the text in it
is text of the code.
-/

namespace Marginalia.Highlight

/-- The same span in code that has more bytes before it. -/
def Span.shift (offset : Nat) (span : Span) : Span :=
  { span with start := span.start + offset, stop := span.stop + offset }

/-- The markup of the code that is left after the first `position` bytes. -/
def markupFrom (position : Nat) (code : Text) (spans : List Span) : Text :=
  (segmentsFrom position code spans).flatMap Segment.render

theorem renderSpans_eq (code : Text) (spans : List Span) :
    renderSpans code spans = wrap (markupFrom 0 code spans) :=
  rfl

@[simp]
theorem markupFrom_nil (position : Nat) (code : Text) :
    markupFrom position code [] = Html.escape code := by
  simp [markupFrom, segmentsFrom, Segment.render]

theorem segmentsFrom_of_skip {span : Span} {position : Nat} {code : Text}
    (skipped : span.cut? position code = none) (spans : List Span) :
    segmentsFrom position code (span :: spans) =
      segmentsFrom position code spans := by
  rw [segmentsFrom, skipped]

theorem segmentsFrom_of_cut {span : Span} {position : Nat}
    {code before inside after : Text}
    (cut : span.cut? position code = some (before, inside, after))
    (spans : List Span) :
    segmentsFrom position code (span :: spans) =
      ⟨before, none⟩ :: ⟨inside, some span.className⟩ ::
        segmentsFrom span.stop after spans := by
  rw [segmentsFrom, cut]

theorem markupFrom_of_skip {span : Span} {position : Nat} {code : Text}
    (skipped : span.cut? position code = none) (spans : List Span) :
    markupFrom position code (span :: spans) =
      markupFrom position code spans := by
  rw [markupFrom, segmentsFrom_of_skip skipped, markupFrom]

theorem markupFrom_of_cut {span : Span} {position : Nat}
    {code before inside after : Text}
    (cut : span.cut? position code = some (before, inside, after))
    (spans : List Span) :
    markupFrom position code (span :: spans) =
      Html.escape before ++
        (Segment.render ⟨inside, some span.className⟩ ++
          markupFrom span.stop after spans) := by
  rw [markupFrom, segmentsFrom_of_cut cut]
  rfl

/-! ## The cut of one span -/

/-- The parts of the code before, in and after a span, and where they lie. -/
theorem Span.cut?_eq_some {span : Span} {position : Nat}
    {code before inside after : Text}
    (cut : span.cut? position code = some (before, inside, after)) :
    code = before ++ (inside ++ after) ∧
      span.stop + Text.byteLength after = position + Text.byteLength code := by
  unfold Span.cut? at cut
  split at cut
  · next ordered =>
      simp only [Option.bind_eq_bind, Option.bind_eq_some_iff, Option.some.injEq,
        Prod.mk.injEq, Prod.exists] at cut
      obtain ⟨before', fromStart, cutStart, inside', after', cutStop, rfl, rfl,
        rfl⟩ := cut
      obtain ⟨rfl, startLength⟩ := Text.cutAtByte?_eq_some cutStart
      obtain ⟨rfl, stopLength⟩ := Text.cutAtByte?_eq_some cutStop
      refine ⟨rfl, ?_⟩
      simp only [Text.byteLength_append]
      omega
  · cases cut

@[simp]
theorem Span.cut?_shift (span : Span) (position offset : Nat) (code : Text) :
    (span.shift offset).cut? (position + offset) code =
      span.cut? position code := by
  have startEq :
      span.start + offset - (position + offset) = span.start - position := by
    omega
  have stopEq :
      span.stop + offset - (span.start + offset) = span.stop - span.start := by
    omega
  simp only [Span.cut?, Span.shift, Nat.add_le_add_iff_right, startEq, stopEq]

/-- A span that ends in the first part of some code cuts only that part. -/
theorem Span.cut?_append_of_le {span : Span} {position : Nat} {code : Text}
    (within : span.stop ≤ position + Text.byteLength code) (rest : Text) :
    span.cut? position (code ++ rest) =
      (span.cut? position code).map
        fun (before, inside, after) => (before, inside, after ++ rest) := by
  unfold Span.cut?
  split
  · next ordered =>
      rw [Text.cutAtByte?_append_of_le code rest _ (by omega)]
      cases cutStart : Text.cutAtByte? code (span.start - position) with
      | none =>
          rfl
      | some parts =>
          obtain ⟨before, fromStart⟩ := parts
          obtain ⟨rfl, startLength⟩ := Text.cutAtByte?_eq_some cutStart
          rw [Text.byteLength_append] at within
          have cutStop :=
            Text.cutAtByte?_append_of_le fromStart rest
              (span.stop - span.start) (by omega)
          simp only [Option.map_some, Option.bind_eq_bind, Option.bind_some,
            cutStop]
          cases Text.cutAtByte? fromStart (span.stop - span.start) <;> rfl
  · rfl

/-- A span that starts after some plain code does not cut it. -/
theorem Span.cut?_append_of_ge {span : Span} {position : Nat} {plain : Text}
    (beyond : position + Text.byteLength plain ≤ span.start) (rest : Text) :
    span.cut? position (plain ++ rest) =
      (span.cut? (position + Text.byteLength plain) rest).map
        fun (before, inside, after) => (plain ++ before, inside, after) := by
  unfold Span.cut?
  by_cases ordered : span.start ≤ span.stop
  · have startEq :
        span.start - position =
          Text.byteLength plain +
            (span.start - (position + Text.byteLength plain)) := by
      omega
    rw [if_pos ⟨by omega, ordered⟩, if_pos ⟨beyond, ordered⟩, startEq,
      Text.cutAtByte?_append_add]
    cases Text.cutAtByte? rest
        (span.start - (position + Text.byteLength plain)) with
    | none =>
        rfl
    | some parts =>
        obtain ⟨before, fromStart⟩ := parts
        simp only [Option.map_some, Option.bind_eq_bind, Option.bind_some]
        cases Text.cutAtByte? fromStart (span.stop - span.start) <;> rfl
  · rw [if_neg (fun both => ordered both.2), if_neg (fun both => ordered both.2)]
    rfl

/-! ## The markup of parts -/

@[simp]
theorem markupFrom_shift (position offset : Nat) (code : Text)
    (spans : List Span) :
    markupFrom (position + offset) code (spans.map (Span.shift offset)) =
      markupFrom position code spans := by
  induction spans generalizing position code with
  | nil =>
      rw [List.map_nil, markupFrom_nil, markupFrom_nil]
  | cons span spans inductionHypothesis =>
      have shifted := span.cut?_shift position offset code
      rw [List.map_cons]
      cases cut : span.cut? position code with
      | none =>
          rw [cut] at shifted
          rw [markupFrom_of_skip cut, markupFrom_of_skip shifted,
            inductionHypothesis]
      | some parts =>
          obtain ⟨before, inside, after⟩ := parts
          rw [cut] at shifted
          rw [markupFrom_of_cut cut, markupFrom_of_cut shifted]
          rw [show (span.shift offset).stop = span.stop + offset from rfl,
            inductionHypothesis]
          rfl

theorem markupFrom_append_of_ge {position : Nat} {plain : Text}
    {spans : List Span}
    (beyond : ∀ span ∈ spans,
      position + Text.byteLength plain ≤ span.start)
    (rest : Text) :
    markupFrom position (plain ++ rest) spans =
      Html.escape plain ++
        markupFrom (position + Text.byteLength plain) rest spans := by
  induction spans with
  | nil =>
      rw [markupFrom_nil, markupFrom_nil, Html.escape_append]
  | cons span spans inductionHypothesis =>
      have spanBeyond := beyond span List.mem_cons_self
      have cutEq := Span.cut?_append_of_ge spanBeyond rest
      cases cut : span.cut? (position + Text.byteLength plain) rest with
      | none =>
          rw [cut, Option.map_none] at cutEq
          rw [markupFrom_of_skip cutEq, markupFrom_of_skip cut]
          exact inductionHypothesis fun span member =>
            beyond span (List.mem_cons_of_mem _ member)
      | some parts =>
          obtain ⟨before, inside, after⟩ := parts
          rw [cut, Option.map_some] at cutEq
          rw [markupFrom_of_cut cutEq, markupFrom_of_cut cut,
            Html.escape_append, List.append_assoc]

/-- Two parts of some code are rendered apart when the spans of the first end
in it and those of the second start in it. -/
theorem markupFrom_append {position : Nat} {code : Text}
    {spans later : List Span}
    (within : ∀ span ∈ spans, span.stop ≤ position + Text.byteLength code)
    (beyond : ∀ span ∈ later,
      position + Text.byteLength code ≤ span.start)
    (rest : Text) :
    markupFrom position (code ++ rest) (spans ++ later) =
      markupFrom position code spans ++
        markupFrom (position + Text.byteLength code) rest later := by
  induction spans generalizing position code with
  | nil =>
      rw [List.nil_append, markupFrom_nil]
      exact markupFrom_append_of_ge beyond rest
  | cons span spans inductionHypothesis =>
      have spanWithin := within span List.mem_cons_self
      have laterWithin :
          ∀ span ∈ spans, span.stop ≤ position + Text.byteLength code :=
        fun span member => within span (List.mem_cons_of_mem _ member)
      have cutEq := Span.cut?_append_of_le spanWithin rest
      rw [List.cons_append]
      cases cut : span.cut? position code with
      | none =>
          rw [cut, Option.map_none] at cutEq
          rw [markupFrom_of_skip cutEq, markupFrom_of_skip cut]
          exact inductionHypothesis laterWithin beyond
      | some parts =>
          obtain ⟨before, inside, after⟩ := parts
          rw [cut, Option.map_some] at cutEq
          obtain ⟨_, lengthEq⟩ := Span.cut?_eq_some cut
          have inner :
              markupFrom span.stop (after ++ rest) (spans ++ later) =
                markupFrom span.stop after spans ++
                  markupFrom (span.stop + Text.byteLength after) rest later :=
            inductionHypothesis (by rw [lengthEq]; exact laterWithin)
              (by rw [lengthEq]; exact beyond)
          rw [markupFrom_of_cut cutEq, markupFrom_of_cut cut, inner, lengthEq]
          simp only [List.append_assoc]

/-! ## What is rendered -/

theorem isMarkup_markupFrom (position : Nat) (code : Text) {spans : List Span}
    (known : ∀ span ∈ spans, span.className ∈ classNames) :
    IsMarkup (markupFrom position code spans) := by
  induction spans generalizing position code with
  | nil =>
      rw [markupFrom_nil]
      exact isMarkup_escape code
  | cons span spans inductionHypothesis =>
      have laterKnown : ∀ span ∈ spans, span.className ∈ classNames :=
        fun span member => known span (List.mem_cons_of_mem _ member)
      cases cut : span.cut? position code with
      | none =>
          rw [markupFrom_of_skip cut]
          exact inductionHypothesis position code laterKnown
      | some parts =>
          obtain ⟨before, inside, after⟩ := parts
          rw [markupFrom_of_cut cut]
          exact (isMarkup_escape before).append
            ((isMarkup_token inside (known span List.mem_cons_self)).append
              (inductionHypothesis span.stop after laterKnown))

/-- A place of a text with a capital letter lies in the content of a token or after
the token: its tags are walls for it. -/
theorem place_token_append {piece name text rest before after : Text}
    (noTag : ∀ c ∈ ['<', '>', '"'], c ∉ piece) (capital : 'D' ∈ piece)
    (known : name ∈ classNames)
    (whole : Segment.render ⟨text, some name⟩ ++ rest =
      before ++ (piece ++ after)) :
    (∃ left right, Html.escape text = left ++ (piece ++ right) ∧
      before = Divider.openingTag name ++ left ∧
      after = right ++ (Divider.tokenEnd ++ rest)) ∨
    ∃ more, before = Segment.render ⟨text, some name⟩ ++ more ∧
      rest = more ++ (piece ++ after) := by
  have passTag :
      ∀ {tag right before : Text} {wall : Char},
        wall ∈ ['<', '>', '"'] → 'D' ∉ tag →
        tag ++ wall :: right = before ++ (piece ++ after) →
        ∃ more, before = tag ++ wall :: more ∧
          right = more ++ (piece ++ after) := by
    intro tag right before wall significant noCapital whole
    rcases Text.append_cons_eq_append_cases (noTag wall significant) whole with
      ⟨more, tagEq, _⟩ | later
    · apply absurd _ noCapital
      rw [tagEq]
      simp [capital]
    · exact later
  have renderEq :
      Segment.render ⟨text, some name⟩ ++ rest =
        [] ++ '<' :: (['s', 'p', 'a', 'n', ' ', 'c', 'l', 'a', 's', 's', '='] ++
          '"' :: (name ++ '"' :: ([] ++ '>' :: (Html.escape text ++
            '<' :: (['/', 's', 'p', 'a', 'n'] ++ '>' :: rest))))) := by
    simp [Segment.render_token, tokenBody, closingRest]
  rw [renderEq] at whole
  obtain ⟨_, rfl, inKey⟩ := passTag (by decide) (by decide) whole
  obtain ⟨_, rfl, inName⟩ := passTag (by decide) (by decide) inKey
  obtain ⟨_, rfl, inEnd⟩ :=
    passTag (by decide) (quiet_of_mem_classNames known 'D' (by decide)) inName
  obtain ⟨afterTag, rfl, inText⟩ := passTag (by decide) (by decide) inEnd
  rcases Text.append_cons_eq_append_cases (noTag '<' (by decide)) inText with
    ⟨right, textEq, afterEq⟩ | ⟨_, rfl, inClosing⟩
  · refine Or.inl ⟨afterTag, right, textEq, ?_, ?_⟩
    · have tagEq :
          Divider.openingTag name =
            ['<', 's', 'p', 'a', 'n', ' ', 'c', 'l', 'a', 's', 's', '=', '"'] ++
              name ++ ['"', '>'] := rfl
      simp [tagEq]
    · have closingEq :
          Divider.tokenEnd ++ rest =
            '<' :: (['/', 's', 'p', 'a', 'n'] ++ '>' :: rest) := rfl
      rw [afterEq, closingEq]
  · obtain ⟨more, rfl, restEq⟩ := passTag (by decide) (by decide) inClosing
    refine Or.inr ⟨more, ?_, restEq⟩
    simp [Segment.render_token, tokenBody, closingRest]

theorem infix_token_append {piece name text rest : Text}
    (noTag : ∀ c ∈ ['<', '>', '"'], c ∉ piece) (capital : 'D' ∈ piece)
    (known : name ∈ classNames)
    (standing : piece <:+: Segment.render ⟨text, some name⟩ ++ rest) :
    piece <:+: Html.escape text ∨ piece <:+: rest := by
  obtain ⟨before, after, whole⟩ := standing
  rw [List.append_assoc] at whole
  rcases place_token_append noTag capital known whole.symm with
    ⟨left, right, textEq, _⟩ | ⟨more, _, restEq⟩
  · exact Or.inl ⟨left, right, by rw [textEq, List.append_assoc]⟩
  · exact Or.inr ⟨more, after, by rw [restEq, List.append_assoc]⟩

/-- Text with a capital letter that stands in rendered code stands in the
escaped code: no token adds it. -/
theorem infix_markupFrom {piece : Text}
    (noTag : ∀ c ∈ ['<', '>', '"'], c ∉ piece) (capital : 'D' ∈ piece)
    {position : Nat} {code : Text} {spans : List Span}
    (known : ∀ span ∈ spans, span.className ∈ classNames)
    (standing : piece <:+: markupFrom position code spans) :
    piece <:+: Html.escape code := by
  induction spans generalizing position code with
  | nil =>
      rwa [markupFrom_nil] at standing
  | cons span spans inductionHypothesis =>
      have laterKnown : ∀ span ∈ spans, span.className ∈ classNames :=
        fun span member => known span (List.mem_cons_of_mem _ member)
      cases cut : span.cut? position code with
      | none =>
          rw [markupFrom_of_skip cut] at standing
          exact inductionHypothesis laterKnown standing
      | some parts =>
          obtain ⟨before, inside, after⟩ := parts
          obtain ⟨rfl, _⟩ := Span.cut?_eq_some cut
          rw [markupFrom_of_cut cut] at standing
          rw [Html.escape_append, Html.escape_append]
          rcases (Text.infix_append_cons_iff (noTag '<' (by decide))).mp standing
            with inBefore | inToken
          · exact List.infix_append_of_infix_left inBefore
          · apply List.infix_append_of_infix_right
            rcases infix_token_append noTag capital
                (known span List.mem_cons_self) (List.infix_cons inToken)
              with inInside | inAfter
            · exact List.infix_append_of_infix_left inInside
            · exact List.infix_append_of_infix_right
                (inductionHypothesis laterKnown inAfter)

end Marginalia.Highlight
