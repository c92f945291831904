import Marginalia.Proofs.Highlight.Span

/-!
# The source of highlighted code

Whatever spans are given, the segments of some code are the code in pieces: a
span that is passed over leaves its text to the segments around it.  So the code
can be read back from its highlighted form by removing the tags and reading the
entities.
-/

namespace Marginalia

/-! ## Text outside tags -/

namespace Html

/-- The text outside tags, where a tag reaches from `<` to the next `>`.  The
flag tells whether the text starts inside a tag. -/
def outsideTags : Bool → Text → Text
  | _, [] => []
  | false, c :: rest =>
      if c = '<' then outsideTags true rest else c :: outsideTags false rest
  | true, c :: rest =>
      if c = '>' then outsideTags false rest else outsideTags true rest

def withoutTags (html : Text) : Text :=
  outsideTags false html

theorem withoutTags_append {text : Text} (noTag : '<' ∉ text) (rest : Text) :
    withoutTags (text ++ rest) = text ++ withoutTags rest := by
  induction text with
  | nil =>
      rfl
  | cons c text inductionHypothesis =>
      rw [List.mem_cons, not_or] at noTag
      have notHere : c ≠ '<' := Ne.symm noTag.1
      have later :
          outsideTags false (text ++ rest) = text ++ outsideTags false rest :=
        inductionHypothesis noTag.2
      rw [List.cons_append, withoutTags, outsideTags, if_neg notHere, later]
      rfl

theorem outsideTags_tag {tag : Text} (noEnd : '>' ∉ tag) (rest : Text) :
    outsideTags true (tag ++ '>' :: rest) = withoutTags rest := by
  induction tag with
  | nil =>
      simp [outsideTags, withoutTags]
  | cons c tag inductionHypothesis =>
      rw [List.mem_cons, not_or] at noEnd
      have notHere : c ≠ '>' := Ne.symm noEnd.1
      rw [List.cons_append, outsideTags, if_neg notHere]
      exact inductionHypothesis noEnd.2

theorem withoutTags_tag {tag : Text} (noEnd : '>' ∉ tag) (rest : Text) :
    withoutTags ('<' :: (tag ++ '>' :: rest)) = withoutTags rest := by
  rw [withoutTags, outsideTags, if_pos rfl, outsideTags_tag noEnd]

end Html

namespace Highlight

/-! ## Segments -/

/-- The segments are the code in pieces, whatever the spans are. -/
@[simp]
theorem flatMap_text_segmentsFrom (position : Nat) (code : Text)
    (spans : List Span) :
    (segmentsFrom position code spans).flatMap Segment.text = code := by
  induction spans generalizing position code with
  | nil =>
      simp [segmentsFrom]
  | cons span spans inductionHypothesis =>
      cases cut : span.cut? position code with
      | none =>
          rw [segmentsFrom_of_skip cut]
          exact inductionHypothesis position code
      | some parts =>
          obtain ⟨before, inside, after⟩ := parts
          have codeEq : code = before ++ (inside ++ after) :=
            (Span.cut?_eq_some cut).1
          rw [segmentsFrom_of_cut cut, List.flatMap_cons, List.flatMap_cons,
            inductionHypothesis span.stop after, codeEq]

theorem exists_span_of_mem_segmentsFrom {position : Nat} {code : Text}
    {spans : List Span} {segment : Segment}
    (member : segment ∈ segmentsFrom position code spans) :
    ∀ name ∈ segment.className?, ∃ span ∈ spans, span.className = name := by
  induction spans generalizing position code with
  | nil =>
      rw [segmentsFrom, List.mem_singleton] at member
      simp [member]
  | cons span spans inductionHypothesis =>
      intro name named
      have later {position : Nat} {code : Text}
          (member : segment ∈ segmentsFrom position code spans) :
          ∃ other ∈ span :: spans, other.className = name := by
        obtain ⟨other, otherMember, sameName⟩ :=
          inductionHypothesis member name named
        exact ⟨other, List.mem_cons_of_mem span otherMember, sameName⟩
      cases cut : span.cut? position code with
      | none =>
          rw [segmentsFrom_of_skip cut] at member
          exact later member
      | some parts =>
          obtain ⟨before, inside, after⟩ := parts
          rw [segmentsFrom_of_cut cut, List.mem_cons, List.mem_cons] at member
          rcases member with rfl | rfl | inRest
          · cases named
          · exact ⟨span, List.mem_cons_self, Option.some.inj named⟩
          · exact later inRest

/-! ## Reading the code back -/

theorem withoutTags_token {name : Text} (noEnd : '>' ∉ name) (text rest : Text) :
    Html.withoutTags (Segment.render ⟨text, some name⟩ ++ rest) =
      Html.escape text ++ Html.withoutTags rest := by
  have renderEq :
      Segment.render ⟨text, some name⟩ ++ rest =
        '<' :: (['s', 'p', 'a', 'n', ' ', 'c', 'l', 'a', 's', 's', '=', '"'] ++
          name ++ ['"'] ++ '>' :: (Html.escape text ++
            '<' :: (['/', 's', 'p', 'a', 'n'] ++ '>' :: rest))) := by
    simp [Segment.render_token, tokenBody, closingRest]
  have noEndInTag :
      '>' ∉ ['s', 'p', 'a', 'n', ' ', 'c', 'l', 'a', 's', 's', '=', '"'] ++
        name ++ ['"'] := by
    simp [noEnd]
  have noTagInText : '<' ∉ Html.escape text :=
    Html.not_mem_escape_of_significant text (by decide)
  rw [renderEq, Html.withoutTags_tag noEndInTag,
    Html.withoutTags_append noTagInText, Html.withoutTags_tag (by decide)]

theorem withoutTags_flatMap_render {segments : List Segment}
    (noEnd : ∀ segment ∈ segments, ∀ name ∈ segment.className?, '>' ∉ name) :
    Html.withoutTags (segments.flatMap Segment.render) =
      Html.escape (segments.flatMap Segment.text) := by
  induction segments with
  | nil =>
      rfl
  | cons segment segments inductionHypothesis =>
      have rest :=
        inductionHypothesis fun other member =>
          noEnd other (List.mem_cons_of_mem segment member)
      obtain ⟨text, name?⟩ := segment
      rw [List.flatMap_cons, List.flatMap_cons, Html.escape_append, ← rest]
      cases name? with
      | none =>
          exact Html.withoutTags_append
            (Html.not_mem_escape_of_significant text (by decide)) _
      | some name =>
          exact withoutTags_token (noEnd _ List.mem_cons_self name rfl) text _

/-- Rendering keeps the code for any spans at all.  The code falls into segments
with optional classes of the given spans, and what is rendered is the segments in
the container.  If no class ends a tag, the code can be read back. -/
theorem renderSpans_keeps_code (code : Text) (spans : List Span) :
    ∃ segments : List Segment,
      (∀ segment ∈ segments, ∀ name ∈ segment.className?,
        ∃ span ∈ spans, span.className = name) ∧
      segments.flatMap Segment.text = code ∧
      renderSpans code spans =
        containerStart ++ segments.flatMap Segment.render ++ containerEnd ∧
      ((∀ span ∈ spans, '<' ∉ span.className ∧ '>' ∉ span.className) →
        Html.unescape (Html.withoutTags (unwrap (renderSpans code spans))) =
          code) := by
  have classes :
      ∀ segment ∈ segmentsFrom 0 code spans, ∀ name ∈ segment.className?,
        ∃ span ∈ spans, span.className = name :=
    fun _ member => exists_span_of_mem_segmentsFrom member
  have texts := flatMap_text_segmentsFrom 0 code spans
  refine ⟨segmentsFrom 0 code spans, classes, texts, rfl, ?_⟩
  intro quiet
  have noEnd :
      ∀ segment ∈ segmentsFrom 0 code spans, ∀ name ∈ segment.className?,
        '>' ∉ name := by
    intro segment member name named
    obtain ⟨span, spanMember, rfl⟩ := classes segment member name named
    exact (quiet span spanMember).2
  rw [renderSpans_eq, unwrap_wrap, markupFrom, withoutTags_flatMap_render noEnd,
    texts, Html.unescape_escape]

/-- Spans that overlap, start inside a character, are reversed or leave the
code. -/
theorem renderSpans_keeps_code_accent :
    renderSpans "é<\"b\"" [⟨0, 2, "nv"⟩, ⟨1, 3, "k"⟩, ⟨5, 4, "m"⟩, ⟨2, 3, "o"⟩,
        ⟨3, 99, "s"⟩, ⟨3, 6, "s"⟩] =
      containerStart ++
        ("<span class=\"nv\">é</span><span class=\"o\">&lt;</span>" ++
          "<span class=\"s\">&quot;b&quot;</span>" : Text) ++ containerEnd ∧
    Html.unescape (Html.withoutTags (unwrap (renderSpans "é<\"b\""
        [⟨0, 2, "nv"⟩, ⟨1, 3, "k"⟩, ⟨5, 4, "m"⟩, ⟨2, 3, "o"⟩, ⟨3, 99, "s"⟩,
          ⟨3, 6, "s"⟩]))) =
      ("é<\"b\"" : Text) := by
  obtain ⟨_, _, _, _, readBack⟩ :=
    renderSpans_keeps_code "é<\"b\"" [⟨0, 2, "nv"⟩, ⟨1, 3, "k"⟩, ⟨5, 4, "m"⟩,
      ⟨2, 3, "o"⟩, ⟨3, 99, "s"⟩, ⟨3, 6, "s"⟩]
  exact ⟨by decide, readBack (by decide)⟩

end Highlight

end Marginalia
