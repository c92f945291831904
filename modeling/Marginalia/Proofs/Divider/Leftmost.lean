import Marginalia.Proofs.Divider.Acceptance
import Marginalia.Proofs.Divider.Interleaving
import Marginalia.Proofs.Highlight.Place

/-!
# The leftmost divider

In highlighted code a divider divides where it stands outside all tokens or is the
content of a comment token.  These dividers are the ones that matches which divide
hold, so that the leftmost of them is the one at which the search stops.
-/

namespace Marginalia
namespace Divider

open Highlight

/-! ## Dividers of segments -/

/-- HTML without a line feed at its end. -/
def dropFinalLineFeed (html : Text) : Text :=
  (dropLineFeed html.reverse).reverse

/-- A divider of segments stands in text outside all tokens, or it is the content of
a comment token, with or without a line feed after it.  Given are the place of the
divider and the HTML around it and the line feeds that belong to it. -/
inductive Divides (divider : Text) (segments : List Segment) :
    Nat → Text × Text → Prop
  | text {earlier later : List Segment} {content left right : Text} :
      segments = earlier ++ ⟨content, none⟩ :: later →
      Html.escape content = left ++ (divider ++ right) →
      Divides divider segments (earlier.flatMap Segment.render ++ left).length
        (dropFinalLineFeed (earlier.flatMap Segment.render ++ left),
          dropLineFeed (right ++ later.flatMap Segment.render))
  | token {earlier later : List Segment} {content name : Text} :
      segments = earlier ++ ⟨content, some name⟩ :: later →
      name ∈ commentClasses → Html.escape content = divider →
      Divides divider segments
        (earlier.flatMap Segment.render ++ openingTag name).length
        (dropFinalLineFeed (earlier.flatMap Segment.render),
          dropLineFeed (later.flatMap Segment.render))
  | tokenWithLineFeed {earlier later : List Segment} {content name : Text} :
      segments = earlier ++ ⟨content, some name⟩ :: later →
      name ∈ commentClasses → Html.escape content = divider ++ ['\n'] →
      Divides divider segments
        (earlier.flatMap Segment.render ++ openingTag name).length
        (dropFinalLineFeed (earlier.flatMap Segment.render),
          later.flatMap Segment.render)

theorem exists_lineFeed_dropFinalLineFeed (html : Text) :
    ∃ lead ∈ lineFeeds, html = dropFinalLineFeed html ++ lead := by
  obtain ⟨trail, trailKnown, reverseEq⟩ :=
    exists_lineFeed_dropLineFeed html.reverse
  have closed : ∀ trail ∈ lineFeeds, trail.reverse ∈ lineFeeds := by
    decide
  refine ⟨trail.reverse, closed trail trailKnown, ?_⟩
  have htmlEq := congrArg List.reverse reverseEq
  rwa [List.reverse_reverse, List.reverse_append] at htmlEq

theorem length_dropFinalLineFeed_le_self (html : Text) :
    (dropFinalLineFeed html).length ≤ html.length := by
  obtain ⟨lead, _, htmlEq⟩ := exists_lineFeed_dropFinalLineFeed html
  have lengths := congrArg List.length htmlEq
  rw [List.length_append] at lengths
  omega

theorem length_dropFinalLineFeed_le {left lead : Text} (known : lead ∈ lineFeeds) :
    (dropFinalLineFeed (left ++ lead)).length ≤ left.length := by
  simp only [lineFeeds, List.mem_cons, List.not_mem_nil, or_false] at known
  rcases known with rfl | rfl
  · rw [List.append_nil]
    exact length_dropFinalLineFeed_le_self left
  · simp [dropFinalLineFeed, dropLineFeed]

variable {language : Language}

/-! ## Dividers are matched -/

theorem insideToken_append_lineFeed {html lead : Text} (known : lead ∈ lineFeeds) :
    insideToken (html ++ lead) = insideToken html := by
  simp only [lineFeeds, List.mem_cons, List.not_mem_nil, or_false] at known
  rcases known with rfl | rfl
  · rw [List.append_nil]
  · have endEq : tokenEnd = '<' :: closingRest := rfl
    rw [insideToken, insideToken, endEq,
      Text.occurrences_append_singleton (by decide),
      Text.occurrences_append_singleton (by decide)]

theorem afterLineFeed_eq {html : Text} (noLineFeed : html.head? ≠ some '\n') :
    afterLineFeed html = [html] := by
  unfold afterLineFeed
  split
  · exact absurd rfl noLineFeed
  · rfl

/-- A line feed before a match belongs to it. -/
theorem matchAt?_lineFeed_append {divider lead html : Text} {found : Match}
    (known : lead ∈ lineFeeds) (noLineFeed : html.head? ≠ some '\n')
    (matched : matchAt? divider html = some found) :
    matchAt? divider (lead ++ html) = some found := by
  simp only [lineFeeds, List.mem_cons, List.not_mem_nil, or_false] at known
  rcases known with rfl | rfl
  · exact matched
  · have tried : afterLineFeed (['\n'] ++ html) = [html] ++ ['\n' :: html] := rfl
    rw [matchAt?, afterLineFeed_eq noLineFeed] at matched
    rw [matchAt?, tried, List.findSome?_append, matched, Option.some_or]

theorem head?_openingTag_append (name : Text) (after : Text) :
    (openingTag name ++ after).head? ≠ some '\n' := by
  intro same
  exact absurd (Option.some.inj same) (by decide : '<' ≠ '\n')

theorem matchAt?_openingTag {divider tail right : Text} {name : Text}
    (known : name ∈ commentClasses) (ended : afterEnding? tail = some right) :
    matchAt? divider (openingTag name ++ (divider ++ tail)) =
      some ⟨true, right⟩ := by
  have token :
      afterToken? divider (openingTag name ++ (divider ++ tail)) = some right := by
    rw [← ended, ← List.append_assoc]
    exact afterToken?_openingTag divider tail ⟨name, known⟩
  rw [matchAt?, afterLineFeed_eq (head?_openingTag_append name _)]
  simp only [List.findSome?_singleton, token]

theorem head?_renderedDivider_append (oneLine : '\n' ∉ language.symbol)
    (after : Text) :
    (language.renderedDivider ++ after).head? ≠ some '\n' := by
  obtain ⟨first, others, dividerEq⟩ :=
    List.exists_cons_of_ne_nil language.renderedDivider_ne_nil
  have absent := Language.lineFeed_not_mem_renderedDivider oneLine
  rw [dividerEq] at absent ⊢
  rw [List.cons_append, List.head?_cons]
  intro same
  exact absent (by rw [Option.some.inj same]; exact List.mem_cons_self)

theorem matchAt?_bare (oneLine : '\n' ∉ language.symbol) (after : Text) :
    matchAt? language.renderedDivider (language.renderedDivider ++ after) =
      some ⟨false, dropLineFeed after⟩ := by
  have noToken :=
    @afterToken?_renderedDivider language language.renderedDivider after
  rw [matchAt?, afterLineFeed_eq (head?_renderedDivider_append oneLine after)]
  simp [noToken, afterBare?]

theorem accepts_token {earlier tail right name : Text}
    (known : name ∈ commentClasses) (ended : afterEnding? tail = some right) :
    ∃ rest,
      earlier ++ (openingTag name ++ (language.renderedDivider ++ tail)) =
        dropFinalLineFeed earlier ++ rest ∧
      Accepts language.renderedDivider (dropFinalLineFeed earlier) rest right := by
  obtain ⟨lead, leadKnown, earlierEq⟩ := exists_lineFeed_dropFinalLineFeed earlier
  have matched :=
    matchAt?_lineFeed_append leadKnown
      (head?_openingTag_append name (language.renderedDivider ++ tail))
      (matchAt?_openingTag known ended)
  refine ⟨_, ?_, true, matched, Or.inl rfl⟩
  rw [← List.append_assoc _ lead, ← earlierEq]

theorem accepts_bare {before after : Text} (oneLine : '\n' ∉ language.symbol)
    (outside : insideToken before = false) :
    ∃ rest,
      before ++ (language.renderedDivider ++ after) =
        dropFinalLineFeed before ++ rest ∧
      Accepts language.renderedDivider (dropFinalLineFeed before) rest
        (dropLineFeed after) := by
  obtain ⟨lead, leadKnown, beforeEq⟩ := exists_lineFeed_dropFinalLineFeed before
  have matched :=
    matchAt?_lineFeed_append leadKnown
      (head?_renderedDivider_append oneLine after) (matchAt?_bare oneLine after)
  have outsideStart : insideToken (dropFinalLineFeed before) = false := by
    rw [beforeEq, insideToken_append_lineFeed leadKnown] at outside
    exact outside
  refine ⟨_, ?_, false, matched, Or.inr outsideStart⟩
  rw [← List.append_assoc _ lead, ← beforeEq]

/-! ## The HTML around a match -/

/-- What is left of the HTML before and after a divider that divides, without the
rest of the match that holds it. -/
inductive Trims (before after : Text) : Text × Text → Prop
  | bare :
      insideToken before = false →
      Trims before after (dropFinalLineFeed before, dropLineFeed after)
  | token {start name right : Text} :
      before = start ++ openingTag name → insideToken before = true →
      name ∈ commentClasses → afterEnding? after = some right →
      Trims before after (dropFinalLineFeed start, right)

theorem Trims.accepts {before after : Text} {around : Text × Text}
    (oneLine : '\n' ∉ language.symbol) (trims : Trims before after around) :
    around.1.length ≤ before.length ∧
      ∃ rest,
        before ++ (language.renderedDivider ++ after) = around.1 ++ rest ∧
          Accepts language.renderedDivider around.1 rest around.2 := by
  cases trims with
  | bare outside =>
      exact ⟨length_dropFinalLineFeed_le_self before, accepts_bare oneLine outside⟩
  | @token start name right beforeEq inside known ended =>
      subst beforeEq
      constructor
      · calc
          (dropFinalLineFeed start).length ≤ start.length :=
            length_dropFinalLineFeed_le_self start
          _ ≤ (start ++ openingTag name).length := by
            rw [List.length_append]
            exact Nat.le_add_right _ _
      · rw [List.append_assoc]
        exact accepts_token known ended

theorem flatMap_render_token (earlier later : List Segment) (content name : Text) :
    (earlier ++ ⟨content, some name⟩ :: later).flatMap Segment.render =
      earlier.flatMap Segment.render ++ openingTag name ++
        (Html.escape content ++ (tokenEnd ++ later.flatMap Segment.render)) := by
  rw [List.flatMap_append, List.flatMap_cons, Segment.render_eq]
  simp only [List.append_assoc]
  rfl

theorem insideToken_openingTag_append {html name content left right : Text}
    (markup : IsMarkup html) (quiet : '<' ∉ name)
    (contentEq : Html.escape content = left ++ right) :
    insideToken (html ++ (openingTag name ++ left)) = true := by
  have whole :
      Segment.render ⟨content, some name⟩ =
        openingTag name ++ left ++ (right ++ tokenEnd) := by
    rw [Segment.render_eq, contentEq]
    simp only [List.append_assoc]
    rfl
  have endNonempty : tokenEnd ≠ [] := by
    decide
  exact insideToken_of_token markup quiet (by simp [endNonempty]) whole ⟨_, rfl⟩

theorem insideToken_openingTag {html name : Text} (markup : IsMarkup html)
    (known : name ∈ commentClasses) :
    insideToken (html ++ openingTag name) = true := by
  have quiet := quiet_of_mem_commentClasses known '<' (by decide)
  have empty : Html.escape [] = ([] : Text) ++ [] := rfl
  have inside := insideToken_openingTag_append markup quiet empty
  rwa [List.append_nil] at inside

theorem isMarkup_earlier {segments earlier later : List Segment} {segment : Segment}
    (known : ∀ segment ∈ segments, ∀ name ∈ segment.className?,
      name ∈ classNames)
    (segmentsEq : segments = earlier ++ segment :: later) :
    IsMarkup (earlier.flatMap Segment.render) := by
  refine ⟨earlier, fun other member => known other ?_, rfl⟩
  simp [segmentsEq, member]

theorem not_mem_around_of_escape {content left piece right : Text}
    (contentEq : Html.escape content = left ++ (piece ++ right)) :
    '<' ∉ left ∧ '<' ∉ right := by
  have escaped : '<' ∉ Html.escape content :=
    Html.not_mem_escape_of_significant content (by decide)
  rw [contentEq] at escaped
  simp only [List.mem_append, not_or] at escaped
  exact ⟨escaped.1, escaped.2.2⟩

theorem Divides.trims {divider : Text} {segments : List Segment} {place : Nat}
    {around : Text × Text}
    (known : ∀ segment ∈ segments, ∀ name ∈ segment.className?,
      name ∈ classNames)
    (divides : Divides divider segments place around) :
    ∃ before after,
      segments.flatMap Segment.render = before ++ (divider ++ after) ∧
        place = before.length ∧ Trims before after around := by
  cases divides with
  | @text earlier later content left right segmentsEq contentEq =>
      have outside :=
        insideToken_markup_append (isMarkup_earlier known segmentsEq)
          (not_mem_around_of_escape contentEq).1
      refine ⟨_, _, ?_, rfl, .bare outside⟩
      rw [segmentsEq, List.flatMap_append, List.flatMap_cons, Segment.render]
      simp only [contentEq, List.append_assoc]
  | @token earlier later content name segmentsEq nameKnown contentEq =>
      have inside :=
        insideToken_openingTag (isMarkup_earlier known segmentsEq) nameKnown
      refine ⟨_, tokenEnd ++ later.flatMap Segment.render, ?_, rfl,
        .token rfl inside nameKnown rfl⟩
      rw [segmentsEq, flatMap_render_token, contentEq]
  | @tokenWithLineFeed earlier later content name segmentsEq nameKnown
      contentEq =>
      have inside :=
        insideToken_openingTag (isMarkup_earlier known segmentsEq) nameKnown
      refine ⟨_, '\n' :: (tokenEnd ++ later.flatMap Segment.render), ?_, rfl,
        .token rfl inside nameKnown rfl⟩
      rw [segmentsEq, flatMap_render_token, contentEq]
      simp only [List.append_assoc, List.singleton_append]

/-- Every divider of segments is held by a match that divides. -/
theorem Divides.exists_match {segments : List Segment} {place : Nat}
    {around : Text × Text} (oneLine : '\n' ∉ language.symbol)
    (known : ∀ segment ∈ segments, ∀ name ∈ segment.className?,
      name ∈ classNames)
    (divides : Divides language.renderedDivider segments place around) :
    ∃ before after rest,
      segments.flatMap Segment.render =
          before ++ (language.renderedDivider ++ after) ∧
        place = before.length ∧ around.1.length ≤ before.length ∧
          segments.flatMap Segment.render = around.1 ++ rest ∧
            Accepts language.renderedDivider around.1 rest around.2 := by
  obtain ⟨before, after, htmlEq, placeEq, trims⟩ := divides.trims known
  obtain ⟨startLe, rest, startEq, accepts⟩ := trims.accepts oneLine
  exact ⟨before, after, rest, htmlEq, placeEq, startLe, htmlEq.trans startEq,
    accepts⟩

/-! ## Matches that divide hold dividers -/

/-- What may stand in a match before the divider. -/
def gaps : List Text :=
  lineFeeds ++ lineFeeds.flatMap fun lead =>
    commentClasses.map fun name => lead ++ openingTag name

/-- No divider starts between the start of a match and the divider that it
holds. -/
theorem not_prefix_of_gap {gap passed others more : Text} (known : gap ∈ gaps)
    (oneLine : '\n' ∉ language.symbol) (parts : gap = passed ++ others)
    (nonempty : others ≠ []) :
    ¬ language.renderedDivider <+: others ++ more := by
  have noCapital : ∀ gap ∈ gaps, 'D' ∉ gap := by
    decide
  have ends : ∀ gap ∈ gaps, gap.getLast? ∈ [none, some '\n', some '>'] := by
    decide
  intro leading
  obtain ⟨initial, final, othersEq⟩ :
      ∃ initial final, others = initial ++ [final] := by
    rcases List.eq_nil_or_concat others with empty | ⟨initial, final, othersEq⟩
    · exact absurd empty nonempty
    · exact ⟨initial, final, by rw [othersEq, List.concat_eq_append]⟩
  have finalKnown : final = '\n' ∨ final = '>' := by
    have last := ends gap known
    rw [parts, othersEq, ← List.append_assoc, List.getLast?_concat] at last
    simpa using last
  have absent : final ∉ language.renderedDivider := by
    rcases finalKnown with rfl | rfl
    · exact Language.lineFeed_not_mem_renderedDivider oneLine
    · exact language.not_mem_renderedDivider (by decide)
  rw [othersEq, List.append_assoc, List.singleton_append] at leading
  have short := Text.prefix_of_prefix_append_cons absent leading
  apply noCapital gap known
  rw [parts, othersEq]
  simp [short.mem language.capital_mem_renderedDivider]

/-- The opening tag of a token between its first character and its class. -/
def openingRest : Text :=
  ['s', 'p', 'a', 'n', ' ', 'c', 'l', 'a', 's', 's', '=', '"']

theorem openingTag_append (name text : Text) :
    openingTag name ++ text = '<' :: (openingRest ++ (name ++ '"' :: '>' :: text)) := by
  have tagEq : openingTag name = '<' :: openingRest ++ name ++ ['"', '>'] := rfl
  rw [tagEq]
  simp only [List.append_assoc, List.cons_append, List.nil_append]

theorem openingTag_append_inj {left left' name other text : Text}
    (quiet : ∀ c ∈ ['<', '"'], c ∉ name) (otherQuiet : ∀ c ∈ ['<', '"'], c ∉ other)
    (noTag : '<' ∉ text)
    (same : left ++ openingTag name = left' ++ (openingTag other ++ text)) :
    left = left' ∧ name = other ∧ text = [] := by
  have restQuiet : '<' ∉ openingRest := by
    decide
  rw [← List.append_nil (openingTag name), openingTag_append, openingTag_append]
    at same
  obtain ⟨leftEq, restEq⟩ :=
    Text.append_cons_inj_of_last (by simp [restQuiet, quiet '<'])
      (by simp [restQuiet, otherQuiet '<', noTag]) same
  obtain ⟨nameEq, endEq⟩ :=
    Text.append_cons_inj (quiet '"' (by decide)) (otherQuiet '"' (by decide))
      (List.append_cancel_left restEq)
  exact ⟨leftEq, nameEq, (List.cons.inj endEq).2.symm⟩

variable {position : Nat} {code : Text} {spans : List Span}

theorem className_mem_of_segmentsFrom
    (known : ∀ span ∈ spans, span.className ∈ classNames) :
    ∀ segment ∈ segmentsFrom position code spans, ∀ name ∈ segment.className?,
      name ∈ classNames := by
  intro segment member name given
  obtain ⟨span, spanMember, rfl⟩ := exists_span_of_mem_segmentsFrom member name given
  exact known span spanMember

/-- A divider at which no token is open stands in text outside all tokens. -/
theorem divides_of_bare {before after : Text}
    (known : ∀ span ∈ spans, span.className ∈ classNames)
    (outside : insideToken before = false)
    (whole : markupFrom position code spans =
      before ++ (language.renderedDivider ++ after)) :
    Divides language.renderedDivider (segmentsFrom position code spans)
      before.length (dropFinalLineFeed before, dropLineFeed after) := by
  obtain ⟨⟨content, name?⟩, earlier, later, left, right, segmentsEq, contentEq, rfl,
      rfl⟩ :=
    exists_standsIn (fun _ => language.not_mem_renderedDivider)
      language.capital_mem_renderedDivider known whole
  cases name? with
  | none =>
      exact .text segmentsEq contentEq
  | some name =>
      have segmentsKnown := @className_mem_of_segmentsFrom position code spans known
      have nameKnown : name ∈ classNames :=
        segmentsKnown ⟨content, some name⟩ (by simp [segmentsEq]) name rfl
      have inside :=
        insideToken_openingTag_append (isMarkup_earlier segmentsKnown segmentsEq)
          (quiet_of_mem_classNames nameKnown '<' (by decide)) contentEq
      exact absurd (inside.symm.trans outside) (by decide)

theorem exists_lineFeed_tokenEnding {ending : Text} (known : ending ∈ tokenEndings) :
    ∃ trail ∈ lineFeeds, ∃ more, ending = trail ++ '<' :: more := by
  simp only [tokenEndings, List.mem_cons, List.not_mem_nil, or_false] at known
  rcases known with rfl | rfl | rfl
  · exact ⟨['\n'], by decide, closingRest, rfl⟩
  · exact ⟨[], by decide, closingRest, rfl⟩
  · exact ⟨[], by decide, closingRest ++ ['\n'], rfl⟩

/-- A token of a comment class around a divider is a token of the code with the
divider as its content. -/
theorem exists_divides_of_token {before name ending after : Text}
    (known : ∀ span ∈ spans, span.className ∈ classNames)
    (nameKnown : name ∈ commentClasses) (endingKnown : ending ∈ tokenEndings)
    (whole : markupFrom position code spans =
      before ++ (openingTag name ++
        (language.renderedDivider ++ (ending ++ after)))) :
    ∃ right,
      Divides language.renderedDivider (segmentsFrom position code spans)
        (before ++ openingTag name).length (dropFinalLineFeed before, right) := by
  have beforeMarkup : IsMarkup before := by
    have markup := isMarkup_markupFrom position code known
    rw [whole] at markup
    have outside :=
      isMarkup_before_token markup.cut (by decide : [] ∈ lineFeeds)
        (openingTag_append name _)
    exact outside.1
  rw [← List.append_assoc] at whole
  obtain ⟨⟨content, name?⟩, earlier, later, left, right, segmentsEq, contentEq,
      beforeEq, afterEq⟩ :=
    exists_standsIn (fun _ => language.not_mem_renderedDivider)
      language.capital_mem_renderedDivider known whole
  have segmentsKnown := @className_mem_of_segmentsFrom position code spans known
  obtain ⟨leftNoTag, rightNoTag⟩ := not_mem_around_of_escape contentEq
  cases name? with
  | none =>
      -- Outside all tokens no tag stands before the divider.
      have inside := insideToken_openingTag beforeMarkup nameKnown
      have outside : insideToken (before ++ openingTag name) = false := by
        rw [beforeEq]
        exact insideToken_markup_append
          (isMarkup_earlier segmentsKnown segmentsEq) leftNoTag
      rw [outside] at inside
      cases inside
  | some other =>
      have otherKnown : other ∈ classNames :=
        segmentsKnown ⟨content, some other⟩ (by simp [segmentsEq]) other rfl
      have among : ['<', '"'] ⊆ ['<', '>', '"', '\n', 'D'] := by
        decide
      have otherQuiet : ∀ c ∈ ['<', '"'], c ∉ other :=
        fun c significant => quiet_of_mem_classNames otherKnown c (among significant)
      obtain ⟨rfl, rfl, rfl⟩ :=
        openingTag_append_inj (quiet_of_mem_commentClasses nameKnown) otherQuiet
          leftNoTag beforeEq
      obtain ⟨trail, trailKnown, more, rfl⟩ := exists_lineFeed_tokenEnding endingKnown
      have trailNoTag : ∀ trail ∈ lineFeeds, '<' ∉ trail := by
        decide
      rw [List.append_assoc, List.cons_append] at afterEq
      obtain ⟨rfl, _⟩ :=
        Text.append_cons_inj (trailNoTag trail trailKnown) rightNoTag afterEq
      simp only [lineFeeds, List.mem_cons, List.not_mem_nil, or_false] at trailKnown
      rcases trailKnown with rfl | rfl
      · rw [List.append_nil] at contentEq
        exact ⟨_, .token segmentsEq nameKnown contentEq⟩
      · exact ⟨_, .tokenWithLineFeed segmentsEq nameKnown contentEq⟩

theorem exists_divides_of_accepts {left rest right : Text}
    (known : ∀ span ∈ spans, span.className ∈ classNames)
    (whole : markupFrom position code spans = left ++ rest)
    (accepts : Accepts language.renderedDivider left rest right) :
    ∃ gap ∈ gaps, ∃ more start right',
      rest = gap ++ more ∧ start.length ≤ left.length ∧
        Divides language.renderedDivider (segmentsFrom position code spans)
          (left ++ gap).length (start, right') := by
  obtain ⟨isToken, matched, accepted⟩ := accepts
  obtain ⟨text, written, restEq⟩ := matchAt?_sound matched
  cases written with
  | @bare lead trail leadKnown trailKnown =>
      have outside : insideToken (left ++ lead) = false := by
        rw [insideToken_append_lineFeed leadKnown]
        simpa using accepted
      have parts :
          rest = lead ++ (language.renderedDivider ++ (trail ++ right)) := by
        rw [restEq]
        simp only [List.append_assoc]
      rw [parts, ← List.append_assoc] at whole
      exact ⟨lead, List.mem_append_left _ leadKnown, _, _, _, parts,
        length_dropFinalLineFeed_le leadKnown, divides_of_bare known outside whole⟩
  | @token lead name ending leadKnown nameKnown endingKnown =>
      have gapKnown : lead ++ openingTag name ∈ gaps :=
        List.mem_append_right _ (List.mem_flatMap.mpr
          ⟨lead, leadKnown, List.mem_map.mpr ⟨name, nameKnown, rfl⟩⟩)
      have parts :
          rest = lead ++ (openingTag name ++
            (language.renderedDivider ++ (ending ++ right))) := by
        rw [restEq]
        simp only [List.append_assoc]
      rw [parts, ← List.append_assoc] at whole
      obtain ⟨right', divides⟩ :=
        exists_divides_of_token known nameKnown endingKnown whole
      rw [List.append_assoc] at divides
      rw [← List.append_assoc] at parts
      exact ⟨_, gapKnown, _, _, right', parts,
        length_dropFinalLineFeed_le leadKnown, divides⟩

/-! ## The leftmost divider -/

theorem Trims.unique {before after : Text} {around around' : Text × Text}
    (trims : Trims before after around) (trims' : Trims before after around') :
    around = around' := by
  cases trims with
  | bare outside =>
      cases trims' with
      | bare => rfl
      | token _ inside =>
          rw [outside] at inside
          cases inside
  | @token start name right beforeEq inside known ended =>
      cases trims' with
      | bare outside =>
          rw [inside] at outside
          cases outside
      | @token start' other right' beforeEq' _ known' ended' =>
          have same : start ++ openingTag name = start' ++ (openingTag other ++ []) := by
            rw [← beforeEq, beforeEq', List.append_nil]
          obtain ⟨rfl, _⟩ :=
            openingTag_append_inj (quiet_of_mem_commentClasses known)
              (quiet_of_mem_commentClasses known') List.not_mem_nil same
          rw [ended] at ended'
          rw [Option.some.inj ended']

theorem Divides.unique {divider : Text} {segments : List Segment} {place : Nat}
    {around around' : Text × Text}
    (known : ∀ segment ∈ segments, ∀ name ∈ segment.className?,
      name ∈ classNames)
    (divides : Divides divider segments place around)
    (divides' : Divides divider segments place around') :
    around = around' := by
  obtain ⟨before, after, htmlEq, placeEq, trims⟩ := divides.trims known
  obtain ⟨before', after', htmlEq', placeEq', trims'⟩ := divides'.trims known
  obtain ⟨rfl, restEq⟩ :=
    List.append_inj (htmlEq.symm.trans htmlEq') (placeEq.symm.trans placeEq')
  obtain rfl : after = after' := List.append_cancel_left restEq
  exact trims.unique trims'

/-- A divider that does not start before a match does not start before the divider
that the match holds. -/
theorem length_gap_le {left gap more before after : Text} (known : gap ∈ gaps)
    (oneLine : '\n' ∉ language.symbol)
    (same : left ++ (gap ++ more) =
      before ++ (language.renderedDivider ++ after))
    (notBefore : left.length ≤ before.length) :
    (left ++ gap).length ≤ before.length := by
  by_contra shorter
  obtain ⟨passed, rfl⟩ : left <+: before :=
    List.prefix_of_prefix_length_le ⟨_, rfl⟩ ⟨_, same.symm⟩ notBefore
  rw [List.length_append, List.length_append] at shorter
  rw [List.append_assoc] at same
  have gapEq := List.append_cancel_left same
  obtain ⟨others, rfl⟩ : passed <+: gap :=
    List.prefix_of_prefix_length_le ⟨_, gapEq.symm⟩ ⟨_, rfl⟩ (by omega)
  have nonempty : others ≠ [] := by
    rintro rfl
    simp at shorter
  rw [List.append_assoc] at gapEq
  exact not_prefix_of_gap known oneLine rfl nonempty
    ⟨after, (List.append_cancel_left gapEq).symm⟩

/-- The search stops at the match of the leftmost divider. -/
theorem exists_divides_of_isLeftmost {left right : Text}
    (oneLine : '\n' ∉ language.symbol)
    (known : ∀ span ∈ spans, span.className ∈ classNames)
    (leftmost : IsLeftmost language.renderedDivider []
      (markupFrom position code spans) (some (left, right))) :
    ∃ place,
      Divides language.renderedDivider (segmentsFrom position code spans) place
        (left, right) ∧
      ∀ place' around,
        Divides language.renderedDivider (segmentsFrom position code spans) place'
          around → place ≤ place' := by
  obtain ⟨passed, rest, whole, leftEq, accepts, first⟩ := leftmost
  rw [List.nil_append] at leftEq
  subst passed
  have segmentsKnown := @className_mem_of_segmentsFrom position code spans known
  have notBefore :
      ∀ {start rest' right'}, markupFrom position code spans = start ++ rest' →
        Accepts language.renderedDivider start rest' right' →
        left.length ≤ start.length := by
    intro start rest' right' startEq accepts'
    by_contra shorter
    exact first start rest' right' startEq (Nat.lt_of_not_le shorter) accepts'
  obtain ⟨gap, gapKnown, more, start, right', rfl, startLe, divides⟩ :=
    exists_divides_of_accepts known whole accepts
  refine ⟨(left ++ gap).length, ?_, ?_⟩
  · obtain ⟨_, _, rest', _, _, _, startEq, accepts'⟩ :=
      divides.exists_match oneLine segmentsKnown
    obtain ⟨rfl, rfl⟩ :=
      List.append_inj (whole.symm.trans startEq)
        (Nat.le_antisymm (notBefore startEq accepts') startLe)
    rw [accepts.unique accepts']
    exact divides
  · intro place' around divides'
    obtain ⟨before, after, _, htmlEq, rfl, startLe', startEq, accepts'⟩ :=
      divides'.exists_match oneLine segmentsKnown
    exact length_gap_le gapKnown oneLine (whole.symm.trans htmlEq)
      ((notBefore startEq accepts').trans startLe')

/-- The search in highlighted code finds the leftmost divider of its segments, and
gives the HTML around it; it finds nothing only where there is no divider. -/
theorem find?_leftmost (language : Language) (code : Text) (spans : List Span)
    (oneLine : '\n' ∉ language.symbol)
    (known : ∀ span ∈ spans, span.className ∈ classNames) :
    (find? language.renderedDivider (unwrap (renderSpans code spans)) = none ↔
      ∀ place around,
        ¬ Divides language.renderedDivider (segments code spans) place around) ∧
    ∀ around,
      find? language.renderedDivider (unwrap (renderSpans code spans)) =
          some around ↔
        ∃ place,
          Divides language.renderedDivider (segments code spans) place around ∧
          ∀ place' around',
            Divides language.renderedDivider (segments code spans) place' around' →
              place ≤ place' := by
  have leftmost :
      IsLeftmost language.renderedDivider [] (markupFrom 0 code spans)
        (find? language.renderedDivider (markupFrom 0 code spans)) :=
    isLeftmost_findFrom (isMarkup_markupFrom 0 code known)
  have segmentsKnown := @className_mem_of_segmentsFrom 0 code spans known
  rw [renderSpans_eq, unwrap_wrap]
  cases answer : find? language.renderedDivider (markupFrom 0 code spans) with
  | none =>
      rw [answer] at leftmost
      have noDivider :
          ∀ place around,
            ¬ Divides language.renderedDivider (segments code spans) place
              around := by
        intro place around divides
        obtain ⟨_, _, rest, _, _, _, startEq, accepts⟩ :=
          divides.exists_match oneLine segmentsKnown
        exact leftmost around.1 rest around.2 startEq accepts
      refine ⟨⟨fun _ => noDivider, fun _ => rfl⟩, fun around => ⟨nofun, ?_⟩⟩
      rintro ⟨place, divides, _⟩
      exact absurd divides (noDivider place around)
  | some found =>
      rw [answer] at leftmost
      obtain ⟨place, divides, first⟩ :=
        exists_divides_of_isLeftmost oneLine known leftmost
      refine ⟨⟨nofun, fun none => absurd divides (none place found)⟩,
        fun around => ⟨?_, ?_⟩⟩
      · rintro ⟨⟩
        exact ⟨place, divides, first⟩
      · rintro ⟨place', divides', first'⟩
        obtain rfl : place = place' :=
          Nat.le_antisymm (first _ _ divides') (first' _ _ divides)
        exact congrArg some (divides.unique segmentsKnown divides')

/-- Two strings that look like dividers stand before the comment that divides. -/
theorem find?_leftmost_python :
    let language : Language := ⟨"python", "#", ["py"]⟩
    let code : Text := "'#DIVIDER'+'#DIVIDER'\n#DIVIDER\n"
    let spans : List Span := [⟨0, 10, "s"⟩, ⟨11, 21, "s"⟩, ⟨22, 30, "c1"⟩]
    let lookAlike : Text := "<span class=\"s\">&#39;#DIVIDER&#39;</span>"
    ∃ place,
      Divides language.renderedDivider (segments code spans) place
        (lookAlike ++ '+' :: lookAlike, []) ∧
      ∀ place' around',
        Divides language.renderedDivider (segments code spans) place' around' →
          place ≤ place' := by
  intro language code spans lookAlike
  have found :
      find? language.renderedDivider (unwrap (renderSpans code spans)) =
        some (lookAlike ++ '+' :: lookAlike, []) := by
    decide
  have leftmost := find?_leftmost language code spans (by decide) (by decide)
  exact (leftmost.2 _).mp found

end Divider
end Marginalia
