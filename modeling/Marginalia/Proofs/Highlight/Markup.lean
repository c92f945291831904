import Marginalia.Highlight.Class
import Marginalia.Highlight.Span
import Marginalia.Proofs.Divider.Search

/-!
# Markup of highlighted code

Highlighted code is escaped text and complete tokens, one after the other.  Such
markup has as many starts as ends of tokens.  Cutting it anywhere cuts it
between two characters, inside an entity or inside a token.
-/

namespace Marginalia.Highlight

def classNames : List Text := classes.map Prod.snd

/-- Escaped text and complete tokens, one after the other. -/
def IsMarkup (html : Text) : Prop :=
  ∃ segments : List Segment,
    (∀ segment ∈ segments, ∀ name ∈ segment.className?, name ∈ classNames) ∧
      html = segments.flatMap Segment.render

/-! ## The container -/

@[simp]
theorem unwrap_wrap (html : Text) : unwrap (wrap html) = html := by
  simp [unwrap, wrap, Text.before?, List.append_assoc]

/-! ## Tokens -/

/-- A token between its two characters that start a tag. -/
def tokenBody (name text : Text) : Text :=
  ['s', 'p', 'a', 'n', ' ', 'c', 'l', 'a', 's', 's', '=', '"'] ++ name ++
    ['"', '>'] ++ Html.escape text

/-- The closing tag of a token after its first character. -/
def closingRest : Text := ['/', 's', 'p', 'a', 'n', '>']

theorem Segment.render_token (text name : Text) :
    Segment.render ⟨text, some name⟩ =
      '<' :: tokenBody name text ++ '<' :: closingRest :=
  rfl

theorem quiet_of_mem_classNames {name : Text} (known : name ∈ classNames) :
    ∀ c ∈ ['<', '>', '"', '\n', 'D'], c ∉ name := by
  have quiet :
      ∀ c ∈ ['<', '>', '"', '\n', 'D'], ∀ name ∈ classNames, c ∉ name :=
    List.all_iff_forall_prop.mp (by decide)
  intro c significant
  exact quiet c significant name known

theorem not_mem_tokenBody {name : Text} (quiet : '<' ∉ name) (text : Text) :
    '<' ∉ tokenBody name text := by
  have escaped : '<' ∉ Html.escape text :=
    Html.not_mem_escape_of_significant text (by decide)
  simp [tokenBody, quiet, escaped]

/-- A token is counted once, by its start as by its end. -/
theorem occurrences_token_append {name : Text} (quiet : '<' ∉ name)
    (text rest : Text) {piece : Text}
    (known : piece ∈ [['s', 'p', 'a', 'n'], closingRest]) :
    Text.occurrences ('<' :: piece)
        (Segment.render ⟨text, some name⟩ ++ rest) =
      1 + Text.occurrences ('<' :: piece) rest := by
  have bodyPassed :
      Text.occurrences ('<' :: piece)
          (tokenBody name text ++ '<' :: (closingRest ++ rest)) =
        Text.occurrences ('<' :: piece) ('<' :: (closingRest ++ rest)) :=
    Text.occurrences_append_of_not_mem (not_mem_tokenBody quiet text) _
  have closingPassed :
      Text.occurrences ('<' :: piece) (closingRest ++ rest) =
        Text.occurrences ('<' :: piece) rest :=
    Text.occurrences_append_of_not_mem (by decide) _
  have renderEq :
      Segment.render ⟨text, some name⟩ ++ rest =
        '<' :: (tokenBody name text ++ '<' :: (closingRest ++ rest)) := by
    simp [Segment.render_token]
  rw [renderEq, Text.occurrences, bodyPassed, Text.occurrences,
    closingPassed]
  -- Of the two characters that start a tag, one starts the piece.
  simp only [List.mem_cons, List.not_mem_nil, or_false] at known
  rcases known with rfl | rfl
  · have startHere :
        Text.startsWith ('<' :: (tokenBody name text ++ '<' ::
          (closingRest ++ rest))) ['<', 's', 'p', 'a', 'n'] = true := rfl
    have notAtEnd :
        Text.startsWith ('<' :: (closingRest ++ rest))
          ['<', 's', 'p', 'a', 'n'] = false := rfl
    simp [startHere, notAtEnd]
  · have notAtStart :
        Text.startsWith ('<' :: (tokenBody name text ++ '<' ::
          (closingRest ++ rest))) ('<' :: closingRest) = false := rfl
    have endHere :
        Text.startsWith ('<' :: (closingRest ++ rest)) ('<' :: closingRest) =
          true := rfl
    simp [notAtStart, endHere]

/-- Markup adds the number of its tokens to the starts and to the ends of
tokens that are counted after it. -/
theorem IsMarkup.occurrences {html : Text} (markup : IsMarkup html) :
    ∃ tokens, ∀ piece ∈ [['s', 'p', 'a', 'n'], closingRest], ∀ rest,
      Text.occurrences ('<' :: piece) (html ++ rest) =
        tokens + Text.occurrences ('<' :: piece) rest := by
  obtain ⟨segments, known, rfl⟩ := markup
  induction segments with
  | nil =>
      exact ⟨0, by simp⟩
  | cons segment segments inductionHypothesis =>
      obtain ⟨tokens, counted⟩ :=
        inductionHypothesis fun segment member =>
          known segment (List.mem_cons_of_mem _ member)
      obtain ⟨text, name?⟩ := segment
      cases name? with
      | none =>
          have escaped : '<' ∉ Segment.render ⟨text, none⟩ :=
            Html.not_mem_escape_of_significant text (by decide)
          refine ⟨tokens, fun piece pieceKnown rest => ?_⟩
          rw [List.flatMap_cons, List.append_assoc,
            Text.occurrences_append_of_not_mem escaped,
            counted piece pieceKnown]
      | some name =>
          have nameKnown : name ∈ classNames :=
            known ⟨text, some name⟩ List.mem_cons_self name rfl
          have quiet : '<' ∉ name :=
            quiet_of_mem_classNames nameKnown '<' (by decide)
          refine ⟨1 + tokens, fun piece pieceKnown rest => ?_⟩
          rw [List.flatMap_cons, List.append_assoc,
            occurrences_token_append quiet _ _ pieceKnown,
            counted piece pieceKnown, Nat.add_assoc]

theorem IsMarkup.balanced_append {html text : Text} (markup : IsMarkup html)
    (noTag : '<' ∉ text) :
    Text.occurrences ['<', 's', 'p', 'a', 'n'] (html ++ text) =
      Text.occurrences Divider.tokenEnd (html ++ text) := by
  obtain ⟨tokens, counted⟩ := markup.occurrences
  have endEq : Divider.tokenEnd = '<' :: closingRest := rfl
  rw [endEq, counted _ (by simp), counted _ (by simp),
    Text.occurrences_eq_zero noTag, Text.occurrences_eq_zero noTag]

theorem IsMarkup.balanced {html : Text} (markup : IsMarkup html) :
    Text.occurrences ['<', 's', 'p', 'a', 'n'] html =
      Text.occurrences Divider.tokenEnd html := by
  simpa using markup.balanced_append (List.not_mem_nil : '<' ∉ [])

/-! ## Joined markup -/

@[simp]
theorem isMarkup_nil : IsMarkup [] :=
  ⟨[], by simp, rfl⟩

theorem isMarkup_escape (text : Text) : IsMarkup (Html.escape text) :=
  ⟨[⟨text, none⟩], by simp, by simp [Segment.render]⟩

theorem isMarkup_token (text : Text) {name : Text} (known : name ∈ classNames) :
    IsMarkup (Segment.render ⟨text, some name⟩) :=
  ⟨[⟨text, some name⟩], by simpa using known, by simp⟩

theorem IsMarkup.append {left right : Text} (leftMarkup : IsMarkup left)
    (rightMarkup : IsMarkup right) :
    IsMarkup (left ++ right) := by
  obtain ⟨leftSegments, leftKnown, rfl⟩ := leftMarkup
  obtain ⟨rightSegments, rightKnown, rfl⟩ := rightMarkup
  refine ⟨leftSegments ++ rightSegments, ?_, List.flatMap_append.symm⟩
  intro segment member
  rcases List.mem_append.mp member with inLeft | inRight
  · exact leftKnown segment inLeft
  · exact rightKnown segment inRight

/-- Markup without a tag is escaped text. -/
theorem IsMarkup.eq_escape {html : Text} (markup : IsMarkup html)
    (noTag : '<' ∉ html) :
    html = Html.escape (Html.unescape html) := by
  obtain ⟨segments, -, rfl⟩ := markup
  have plain :
      segments.flatMap Segment.render =
        Html.escape (segments.flatMap Segment.text) := by
    induction segments with
    | nil =>
        rfl
    | cons segment segments inductionHypothesis =>
        obtain ⟨text, name?⟩ := segment
        rw [List.flatMap_cons, List.mem_append, not_or] at noTag
        cases name? with
        | none =>
            rw [List.flatMap_cons, List.flatMap_cons, Html.escape_append,
              inductionHypothesis noTag.2]
            rfl
        | some name =>
            exact absurd List.mem_cons_self noTag.1
  rw [plain, Html.unescape_escape]

/-! ## Cuts of markup -/

/-- Where markup may be cut: between two characters, inside an entity or inside
a token. -/
inductive MarkupCut : Text → Text → Prop
  | clean {left right : Text} :
      IsMarkup left → IsMarkup right → MarkupCut left right
  | entity {left head rest right : Text} :
      IsMarkup left → Html.CutsEntity head rest → IsMarkup right →
      MarkupCut (left ++ head) (rest ++ right)
  | token {left head rest right text name : Text} :
      IsMarkup left → name ∈ classNames → head ≠ [] → rest ≠ [] →
      Segment.render ⟨text, some name⟩ = head ++ rest → IsMarkup right →
      MarkupCut (left ++ head) (rest ++ right)

theorem MarkupCut.prepend {before left right : Text} (markup : IsMarkup before)
    (cut : MarkupCut left right) :
    MarkupCut (before ++ left) right := by
  cases cut with
  | clean leftMarkup rightMarkup =>
      exact .clean (markup.append leftMarkup) rightMarkup
  | entity leftMarkup cuts rightMarkup =>
      rw [← List.append_assoc]
      exact .entity (markup.append leftMarkup) cuts rightMarkup
  | token leftMarkup known nonempty restNonempty whole rightMarkup =>
      rw [← List.append_assoc]
      exact .token (markup.append leftMarkup) known nonempty restNonempty
        whole rightMarkup

theorem MarkupCut.append {after left right : Text} (markup : IsMarkup after)
    (cut : MarkupCut left right) :
    MarkupCut left (right ++ after) := by
  cases cut with
  | clean leftMarkup rightMarkup =>
      exact .clean leftMarkup (rightMarkup.append markup)
  | entity leftMarkup cuts rightMarkup =>
      rw [List.append_assoc]
      exact .entity leftMarkup cuts (rightMarkup.append markup)
  | token leftMarkup known nonempty restNonempty whole rightMarkup =>
      rw [List.append_assoc]
      exact .token leftMarkup known nonempty restNonempty whole
        (rightMarkup.append markup)

theorem markupCut_of_segment {text : Text} {name? : Option Text}
    (known : ∀ name ∈ name?, name ∈ classNames) {left right : Text}
    (whole : Segment.render ⟨text, name?⟩ = left ++ right) :
    MarkupCut left right := by
  cases name? with
  | none =>
      rcases Html.escape_eq_append whole with
        ⟨before, after, rfl, rfl, rfl⟩ |
        ⟨before, c, after, head, rest, rfl, rfl, rfl, cuts⟩
      · exact .clean (isMarkup_escape before) (isMarkup_escape after)
      · exact .entity (isMarkup_escape before) cuts (isMarkup_escape after)
  | some name =>
      have nameKnown : name ∈ classNames := known name rfl
      by_cases atStart : left = []
      · subst left
        rw [List.nil_append] at whole
        rw [← whole]
        exact .clean isMarkup_nil (isMarkup_token text nameKnown)
      by_cases atEnd : right = []
      · subst right
        rw [List.append_nil] at whole
        rw [← whole]
        exact .clean (isMarkup_token text nameKnown) isMarkup_nil
      have cut : MarkupCut ([] ++ left) (right ++ []) :=
        .token isMarkup_nil nameKnown atStart atEnd whole isMarkup_nil
      simpa using cut

/-- Every cut of markup is one of the three kinds. -/
theorem IsMarkup.cut {left right : Text} (markup : IsMarkup (left ++ right)) :
    MarkupCut left right := by
  obtain ⟨segments, known, whole⟩ := markup
  induction segments generalizing left with
  | nil =>
      obtain ⟨rfl, rfl⟩ := List.append_eq_nil_iff.mp whole
      exact .clean isMarkup_nil isMarkup_nil
  | cons segment segments inductionHypothesis =>
      have segmentKnown := known segment List.mem_cons_self
      have restKnown :
          ∀ segment ∈ segments, ∀ name ∈ segment.className?,
            name ∈ classNames :=
        fun segment member => known segment (List.mem_cons_of_mem _ member)
      have segmentMarkup : IsMarkup segment.render :=
        ⟨[segment], by simpa using segmentKnown, by simp⟩
      rw [List.flatMap_cons] at whole
      rcases List.append_eq_append_iff.mp whole with
        ⟨rest, segmentEq, rfl⟩ | ⟨later, rfl, restEq⟩
      · exact (markupCut_of_segment segmentKnown segmentEq).append
          ⟨segments, restKnown, rfl⟩
      · exact (inductionHypothesis restKnown restEq.symm).prepend segmentMarkup

end Marginalia.Highlight
