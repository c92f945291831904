import Marginalia.Proofs.Highlight.Span

/-!
# Fragments of highlighted code

Cutting highlighted code at its dividers never cuts a token.  The HTML after a
divider is markup again: this is the invariant that carries from one fragment to
the next, whatever look-alikes of a divider stand in the code.

A fragment can end inside an entity, but only where the comment symbol starts
with the rest of that entity, as `;` and `amp;` do.
-/

namespace Marginalia
namespace Divider

open Highlight

variable {language : Language}

/-! ## Parts of entities -/

theorem not_mem_of_cutsEntity {head rest : Text}
    (cuts : Html.CutsEntity head rest) :
    ∀ c ∈ ['<', '>', '\n', 'D', 'R'], c ∉ head ∧ c ∉ rest := by
  have foreign :
      ∀ c ∈ ['<', '>', '\n', 'D', 'R'], ∀ entity ∈ Html.entities,
        c ∉ entity :=
    List.all_iff_forall_prop.mp (by decide)
  intro c member
  have absent := foreign c member (head ++ rest) cuts.1
  rwa [List.mem_append, not_or] at absent

/-- Escaped text without entities is the text itself. -/
theorem prefix_of_prefix_escape {piece text : Text} (noEntity : '&' ∉ piece)
    (leading : piece <+: Html.escape text) :
    piece <+: text := by
  induction text generalizing piece with
  | nil =>
      exact leading
  | cons c text inductionHypothesis =>
      cases piece with
      | nil =>
          exact List.nil_prefix
      | cons first piece =>
          rw [List.mem_cons, not_or] at noEntity
          rw [Html.escape_cons] at leading
          rcases Html.escapeChar_eq c with ⟨plain, _⟩ | entity
          · rw [plain, List.singleton_append, List.cons_prefix_cons] at leading
            rw [List.cons_prefix_cons]
            exact ⟨leading.1, inductionHypothesis noEntity.2 leading.2⟩
          · have starts : ∀ entity ∈ Html.entities, ['&'] <+: entity := by
              decide
            obtain ⟨others, entityEq⟩ := starts _ entity
            rw [← entityEq, List.append_assoc, List.singleton_append,
              List.cons_prefix_cons] at leading
            exact absurd leading.1.symm noEntity.1

/-- Where a divider starts inside an entity, the comment symbol starts with the
rest of the entity. -/
theorem rest_prefix_symbol {head rest after : Text}
    (cuts : Html.CutsEntity head rest)
    (leading : rest <+: language.renderedDivider ++ after) :
    rest <+: language.symbol := by
  have noCapital : 'D' ∉ rest := (not_mem_of_cutsEntity cuts 'D' (by decide)).2
  have dividerEq :
      language.renderedDivider ++ after =
        Html.escape language.symbol ++
          'D' :: (['I', 'V', 'I', 'D', 'E', 'R'] ++ after) := by
    simp [Language.renderedDivider, Language.dividerWord]
  have noEntity : '&' ∉ rest :=
    fun member => cuts.quiet '&' member (by decide)
  rw [dividerEq] at leading
  exact prefix_of_prefix_escape noEntity
    (Text.prefix_of_prefix_append_cons noCapital leading)

/-! ## Parts of tokens -/

theorem quiet_of_mem_commentClasses {name : Text} (known : name ∈ commentClasses) :
    ∀ c ∈ ['<', '"'], c ∉ name := by
  have quiet : ∀ c ∈ ['<', '"'], ∀ name ∈ commentClasses, c ∉ name :=
    List.all_iff_forall_prop.mp (by decide)
  intro c significant
  exact quiet c significant name known

theorem exists_cons_of_token {text name head rest : Text} (nonempty : head ≠ [])
    (whole : Segment.render ⟨text, some name⟩ = head ++ rest) :
    ∃ others, head = '<' :: others ∧
      others ++ rest = tokenBody name text ++ '<' :: closingRest := by
  obtain ⟨first, others, rfl⟩ := List.exists_cons_of_ne_nil nonempty
  rw [Segment.render_token, List.cons_append, List.cons_append] at whole
  obtain ⟨rfl, restEq⟩ := List.cons.inj whole
  exact ⟨others, rfl, restEq.symm⟩

theorem exists_end_of_token {text name head rest : Text} (nonempty : rest ≠ [])
    (whole : Segment.render ⟨text, some name⟩ = head ++ rest) :
    ∃ initial, rest = initial ++ ['>'] := by
  have lastEq := congrArg List.getLast? whole
  rw [List.getLast?_append_of_ne_nil _ nonempty, Segment.render_token,
    List.getLast?_append_of_ne_nil _ (List.cons_ne_nil _ _)] at lastEq
  exact List.getLast?_eq_some_iff.mp lastEq.symm

/-- A second part of a token in which a tag starts is its closing tag and what
stands before it. -/
theorem eq_closingRest_of_token {text name head rest lead others : Text}
    (known : name ∈ classNames) (nonempty : head ≠ [])
    (whole : Segment.render ⟨text, some name⟩ = head ++ rest)
    (restEq : rest = lead ++ '<' :: others) :
    others = closingRest := by
  obtain ⟨later, rfl, bodyEq⟩ := exists_cons_of_token nonempty whole
  have quiet : '<' ∉ name := quiet_of_mem_classNames known '<' (by decide)
  rw [restEq, ← List.append_assoc] at bodyEq
  have parts :=
    (List.append_cons_inj_of_notMem (not_mem_tokenBody quiet text)
      (by decide : '<' ∉ closingRest)).mp bodyEq.symm
  exact parts.2.2.symm

/-- A first part of a token that reaches into its name leaves more tokens open
than closed. -/
theorem insideToken_of_token {left head rest text name : Text}
    (markup : IsMarkup left) (quiet : '<' ∉ name) (restNonempty : rest ≠ [])
    (whole : Segment.render ⟨text, some name⟩ = head ++ rest)
    (opened : ['<', 's', 'p', 'a', 'n'] <+: head) :
    insideToken (left ++ head) = true := by
  have nonempty : head ≠ [] := by
    rintro rfl
    exact absurd (List.prefix_nil.mp opened) (by decide)
  obtain ⟨others, rfl, bodyEq⟩ := exists_cons_of_token nonempty whole
  have noEnd : Text.occurrences ('<' :: closingRest) others = 0 := by
    rcases List.append_eq_append_iff.mp bodyEq with
      ⟨more, bodyEq, _⟩ | ⟨more, rfl, endEq⟩
    · -- The token is cut before its closing tag.
      apply Text.occurrences_eq_zero
      intro member
      apply not_mem_tokenBody quiet text
      rw [bodyEq]
      exact List.mem_append_left more member
    · -- The token is cut inside its closing tag.
      rw [Text.occurrences_append_of_not_mem (not_mem_tokenBody quiet text)]
      apply Text.occurrences_eq_zero_of_length_lt
      rw [endEq, List.length_append]
      have := List.length_pos_iff.mpr restNonempty
      omega
  have notAtStart :
      Text.startsWith ('<' :: others) ('<' :: closingRest) = false := by
    obtain ⟨later, laterEq⟩ := opened
    obtain rfl : ['s', 'p', 'a', 'n'] ++ later = others :=
      (List.cons.inj laterEq).2
    rfl
  have startHere :
      Text.startsWith ('<' :: others) ['<', 's', 'p', 'a', 'n'] = true :=
    Text.startsWith_iff.mpr opened
  obtain ⟨tokens, counted⟩ := markup.occurrences
  have endEq : tokenEnd = '<' :: closingRest := rfl
  rw [insideToken, decide_eq_true_eq, endEq, counted _ (by simp),
    counted _ (by simp), Text.occurrences, Text.occurrences, notAtStart, noEnd,
    startHere]
  simp only [Bool.false_eq_true, if_false, if_true]
  omega

/-- A first part of a token that does not reach its name leaves a piece of the
opening tag, in which no divider starts. -/
theorem not_prefix_of_opening {head rest right text name piece : Text}
    (noQuote : '"' ∉ piece) (capital : 'D' ∈ piece)
    (whole : Segment.render ⟨text, some name⟩ = head ++ rest)
    (short : head <+: ['<', 's', 'p', 'a', 'n']) :
    ¬ piece <+: rest ++ right := by
  intro leading
  obtain ⟨more, tagEq⟩ := short
  have restEq :
      rest = more ++ [' ', 'c', 'l', 'a', 's', 's', '='] ++
        '"' :: (name ++ ['"', '>'] ++ Html.escape text ++ '<' :: closingRest) := by
    have tokenEq :
        Segment.render ⟨text, some name⟩ =
          ['<', 's', 'p', 'a', 'n'] ++ ([' ', 'c', 'l', 'a', 's', 's', '='] ++
            '"' :: (name ++ ['"', '>'] ++ Html.escape text ++
              '<' :: closingRest)) := rfl
    rw [tokenEq, ← tagEq, List.append_assoc, List.append_cancel_left_eq]
      at whole
    rw [← whole]
    simp only [List.append_assoc]
  rw [restEq, List.append_assoc, List.cons_append] at leading
  have inTag := Text.prefix_of_prefix_append_cons noQuote leading
  have inOpening :
      'D' ∈ head ++ more ++ [' ', 'c', 'l', 'a', 's', 's', '='] := by
    rw [List.append_assoc]
    exact List.mem_append_right head (inTag.mem capital)
  rw [tagEq] at inOpening
  revert inOpening
  decide

/-! ## What follows a divider -/

/-- After text without tags that ends with a character of no entity, markup goes
on. -/
theorem isMarkup_of_text_append {text html : Text} {final : Char}
    (noTag : '<' ∉ text ++ [final]) (foreign : final ∈ ['\n', 'R'])
    (markup : IsMarkup (text ++ [final] ++ html)) :
    IsMarkup html := by
  have finalMember :
      ∀ {left head : Text}, head ≠ [] → text ++ [final] = left ++ head →
        final ∈ head := by
    intro left head nonempty textEq
    have lastEq := congrArg List.getLast? textEq
    rw [List.getLast?_append_of_ne_nil _ nonempty] at lastEq
    exact List.mem_of_getLast? (by simpa using lastEq.symm)
  generalize textEq : text ++ [final] = passed at noTag markup
  cases markup.cut with
  | clean _ htmlMarkup =>
      exact htmlMarkup
  | entity _ cuts _ =>
      have listed : ['\n', 'R'] ⊆ ['<', '>', '\n', 'D', 'R'] := by
        decide
      have absent := (not_mem_of_cutsEntity cuts final (listed foreign)).1
      exact absurd (finalMember cuts.2.1 textEq) absent
  | token _ _ nonempty _ whole _ =>
      obtain ⟨others, rfl, _⟩ := exists_cons_of_token nonempty whole
      exact absurd (List.mem_append_right _ List.mem_cons_self) noTag

theorem isMarkup_of_lineFeed_append {lead html : Text} (known : lead ∈ lineFeeds)
    (markup : IsMarkup (lead ++ html)) :
    IsMarkup html := by
  simp only [lineFeeds, List.mem_cons, List.not_mem_nil, or_false] at known
  rcases known with rfl | rfl
  · exact markup
  · exact @isMarkup_of_text_append [] html '\n' (by decide) (by decide) markup

theorem isMarkup_of_token_append {name content html : Text}
    (quiet : '<' ∉ name) (noTag : '<' ∉ content)
    (markup : IsMarkup (openingTag name ++ content ++ tokenEnd ++ html)) :
    IsMarkup html := by
  let body : Text :=
    ['s', 'p', 'a', 'n', ' ', 'c', 'l', 'a', 's', 's', '=', '"'] ++ name ++
      ['"', '>'] ++ content
  have bodyQuiet : '<' ∉ body := by
    simp [body, quiet, noTag]
  have tokenEq :
      openingTag name ++ content ++ tokenEnd =
        '<' :: body ++ '<' :: closingRest := rfl
  rw [tokenEq] at markup
  generalize passedEq : '<' :: body ++ '<' :: closingRest = passed at markup
  cases markup.cut with
  | clean _ htmlMarkup =>
      exact htmlMarkup
  | @entity left head rest right _ cuts _ =>
      have lastEq := congrArg List.getLast? passedEq
      rw [List.getLast?_append_of_ne_nil _ cuts.2.1,
        List.getLast?_append_of_ne_nil _ (List.cons_ne_nil _ _)] at lastEq
      have inHead : '>' ∈ head := List.mem_of_getLast? lastEq.symm
      exact absurd inHead (not_mem_of_cutsEntity cuts '>' (by decide)).1
  | @token left head rest right text name' _ known nonempty restNonempty whole
      _ =>
      have quiet' : '<' ∉ name' := quiet_of_mem_classNames known '<' (by decide)
      obtain ⟨others, rfl, bodyEq⟩ := exists_cons_of_token nonempty whole
      cases left with
      | nil =>
          -- The part is the whole token, so nothing of it is left.
          obtain rfl : body ++ '<' :: closingRest = others :=
            (List.cons.inj passedEq).2
          rw [List.append_assoc, List.cons_append] at bodyEq
          have parts :=
            Text.append_cons_inj bodyQuiet (not_mem_tokenBody quiet' text) bodyEq
          exact absurd (List.append_right_eq_self.mp parts.2) restNonempty
      | cons first left =>
          -- The part starts with the closing tag.
          have parts :=
            (List.append_cons_inj_of_notMem bodyQuiet
              (by decide : '<' ∉ closingRest)).mp (List.cons.inj passedEq).2
          rw [← parts.2.2] at bodyEq
          exact absurd (List.cons.inj bodyEq).1 (by decide)

/-! ## Cuts at a divider -/

/-- Markup that may end inside an entity, if the comment symbol starts with the
rest of the entity. -/
def IsFragment (language : Language) (html : Text) : Prop :=
  IsMarkup html ∨
    ∃ markup head rest, html = markup ++ head ∧ IsMarkup markup ∧
      Html.CutsEntity head rest ∧ rest <+: language.symbol

theorem isMarkup_after_token {text html : Text}
    (written : Written language.renderedDivider true text)
    (markup : IsMarkup (text ++ html)) :
    IsMarkup html := by
  cases written with
  | @token lead name ending leadKnown nameKnown endingKnown =>
      have quiet : '<' ∉ name :=
        quiet_of_mem_commentClasses nameKnown '<' (by decide)
      have noTag : '<' ∉ language.renderedDivider :=
        language.not_mem_renderedDivider (by decide)
      have tokenMarkup :
          IsMarkup
            (openingTag name ++ language.renderedDivider ++ ending ++ html) := by
        apply isMarkup_of_lineFeed_append leadKnown
        simpa only [List.append_assoc] using markup
      simp only [tokenEndings, List.mem_cons, List.not_mem_nil, or_false]
        at endingKnown
      rcases endingKnown with rfl | rfl | rfl
      · have noTag' : '<' ∉ language.renderedDivider ++ ['\n'] := by
          simp [noTag]
        apply isMarkup_of_token_append quiet noTag'
        simpa only [List.append_assoc, List.cons_append, List.nil_append]
          using tokenMarkup
      · exact isMarkup_of_token_append quiet noTag tokenMarkup
      · have lineFeedMarkup : IsMarkup (['\n'] ++ html) := by
          apply isMarkup_of_token_append quiet noTag
          simpa only [List.append_assoc] using tokenMarkup
        exact isMarkup_of_lineFeed_append (by decide) lineFeedMarkup

/-- Markup that is cut before a token, or before a line feed and a token, is cut
outside all tokens and entities. -/
theorem isMarkup_before_token {left lead others html : Text}
    (cut : MarkupCut left html) (leadKnown : lead ∈ lineFeeds)
    (htmlEq : html = lead ++ '<' :: 's' :: others) :
    IsMarkup left ∧ IsMarkup html := by
  have leadQuiet : ∀ lead ∈ lineFeeds, '>' ∉ lead := by
    decide
  cases cut with
  | clean leftMarkup htmlMarkup =>
      exact ⟨leftMarkup, htmlMarkup⟩
  | @entity before head rest right _ cuts _ =>
      -- An entity goes on neither with a line feed nor with a tag.
      obtain ⟨first, later, rfl⟩ := List.exists_cons_of_ne_nil cuts.2.2
      have absent := fun c member =>
        (not_mem_of_cutsEntity cuts c member).2
      simp only [lineFeeds, List.mem_cons, List.not_mem_nil, or_false]
        at leadKnown
      rcases leadKnown with rfl | rfl
      · obtain ⟨rfl, _⟩ := List.cons.inj htmlEq
        exact absurd List.mem_cons_self (absent '<' (by decide))
      · obtain ⟨rfl, _⟩ := List.cons.inj htmlEq
        exact absurd List.mem_cons_self (absent '\n' (by decide))
  | @token before head rest right text name _ known nonempty restNonempty whole
      _ =>
      -- A token goes on with a tag only at its closing tag.
      have endMember : '>' ∈ rest := by
        obtain ⟨initial, rfl⟩ := exists_end_of_token restNonempty whole
        simp
      rcases List.append_eq_append_iff.mp htmlEq with
        ⟨more, leadEq, _⟩ | ⟨more, restEq, moreEq⟩
      · have inLead : '>' ∈ lead := by
          rw [leadEq]
          exact List.mem_append_left more endMember
        exact absurd inLead (leadQuiet lead leadKnown)
      · cases more with
        | nil =>
            rw [List.append_nil] at restEq
            rw [restEq] at endMember
            exact absurd endMember (leadQuiet lead leadKnown)
        | cons first more =>
            obtain ⟨rfl, othersEq⟩ := List.cons.inj moreEq
            have closing : more = closingRest :=
              eq_closingRest_of_token known nonempty whole restEq
            rw [closing] at othersEq
            exact absurd (List.cons.inj othersEq).1 (by decide)

theorem isMarkup_around_token {left text right : Text}
    (written : Written language.renderedDivider true text)
    (markup : IsMarkup (left ++ (text ++ right))) :
    IsMarkup left ∧ IsMarkup right := by
  obtain ⟨leftMarkup, restMarkup⟩ :
      IsMarkup left ∧ IsMarkup (text ++ right) := by
    cases written with
    | @token lead name ending leadKnown nameKnown endingKnown =>
        apply isMarkup_before_token markup.cut leadKnown
        simp only [List.append_assoc]
        rfl
  exact ⟨leftMarkup, isMarkup_after_token written restMarkup⟩

theorem exists_final_of_bare {text : Text}
    (written : Written language.renderedDivider false text) :
    ∃ initial, ∃ final ∈ ['\n', 'R'], text = initial ++ [final] := by
  cases written with
  | @bare lead trail leadKnown trailKnown =>
      simp only [lineFeeds, List.mem_cons, List.not_mem_nil, or_false]
        at trailKnown
      rcases trailKnown with rfl | rfl
      · refine ⟨lead ++ (Html.escape language.symbol ++
          ['D', 'I', 'V', 'I', 'D', 'E']), 'R', by decide, ?_⟩
        simp [Language.renderedDivider, Language.dividerWord]
      · exact ⟨lead ++ language.renderedDivider, '\n', by decide, rfl⟩

theorem not_mem_of_bare {text : Text} {c : Char}
    (written : Written language.renderedDivider false text)
    (significant : c ∈ ['<', '>', '"']) :
    c ∉ text := by
  cases written with
  | @bare lead trail leadKnown trailKnown =>
      have lineFeedsQuiet :
          ∀ c ∈ ['<', '>', '"'], ∀ lead ∈ lineFeeds, c ∉ lead :=
        List.all_iff_forall_prop.mp (by decide)
      simp only [List.mem_append, not_or]
      exact ⟨⟨lineFeedsQuiet c significant lead leadKnown,
        language.not_mem_renderedDivider significant⟩,
        lineFeedsQuiet c significant trail trailKnown⟩

theorem isMarkup_after_bare {text passed html : Text}
    (written : Written language.renderedDivider false text)
    (isRest : passed <:+ text) (nonempty : passed ≠ [])
    (markup : IsMarkup (passed ++ html)) :
    IsMarkup html := by
  obtain ⟨initial, final, foreign, textEq⟩ := exists_final_of_bare written
  have noTag : '<' ∉ text := not_mem_of_bare written (by decide)
  obtain ⟨before, passedEq⟩ := isRest
  rcases List.eq_nil_or_concat passed with empty | ⟨start, final', rfl⟩
  · exact absurd empty nonempty
  · rw [List.concat_eq_append] at *
    have parts : before ++ start = initial ∧ final' = final := by
      rw [textEq, ← List.append_assoc] at passedEq
      simpa using List.append_inj' passedEq rfl
    obtain ⟨_, rfl⟩ := parts
    refine isMarkup_of_text_append ?_ foreign markup
    intro member
    apply noTag
    rw [← passedEq]
    exact List.mem_append_right before member

theorem rest_prefix_symbol_of_bare {text head rest : Text}
    (written : Written language.renderedDivider false text)
    (cuts : Html.CutsEntity head rest) (leading : rest <+: text) :
    rest <+: language.symbol := by
  cases written with
  | @bare lead trail leadKnown trailKnown =>
      simp only [lineFeeds, List.mem_cons, List.not_mem_nil, or_false]
        at leadKnown
      rcases leadKnown with rfl | rfl
      · exact rest_prefix_symbol cuts leading
      · obtain ⟨first, others, rfl⟩ := List.exists_cons_of_ne_nil cuts.2.2
        obtain ⟨rfl, _⟩ := List.cons_prefix_cons.mp leading
        have noLineFeed := (not_mem_of_cutsEntity cuts '\n' (by decide)).2
        exact absurd List.mem_cons_self noLineFeed

/-- Around a bare divider outside all tokens there is a fragment on the left and
markup on the right. -/
theorem isFragment_around_bare {left text right : Text}
    (written : Written language.renderedDivider false text)
    (outside : insideToken left = false)
    (markup : IsMarkup (left ++ (text ++ right))) :
    IsFragment language left ∧ IsMarkup right := by
  have capital : 'D' ∈ text :=
    written.infix.mem language.capital_mem_renderedDivider
  have noQuote : '"' ∉ text := not_mem_of_bare written (by decide)
  have nonempty : text ≠ [] := List.ne_nil_of_mem capital
  generalize htmlEq : text ++ right = html at markup
  cases markup.cut with
  | clean leftMarkup htmlMarkup =>
      rw [← htmlEq] at htmlMarkup
      exact ⟨Or.inl leftMarkup,
        isMarkup_after_bare written List.suffix_rfl nonempty htmlMarkup⟩
  | @entity before head rest after beforeMarkup cuts afterMarkup =>
      have noCapital := (not_mem_of_cutsEntity cuts 'D' (by decide)).2
      rcases List.append_eq_append_iff.mp htmlEq with
        ⟨more, rfl, _⟩ | ⟨more, textEq, rfl⟩
      · exact absurd (List.mem_append_left more capital) noCapital
      · have moreNonempty : more ≠ [] := by
          rintro rfl
          rw [textEq, List.append_nil] at capital
          exact noCapital capital
        have restLeading : rest <+: text := ⟨more, textEq.symm⟩
        exact ⟨Or.inr ⟨before, head, rest, rfl, beforeMarkup, cuts,
            rest_prefix_symbol_of_bare written cuts restLeading⟩,
          isMarkup_after_bare written ⟨rest, textEq.symm⟩ moreNonempty
            afterMarkup⟩
  | @token before head rest after content name beforeMarkup known headNonempty
      restNonempty whole _ =>
      exfalso
      have leading : text <+: rest ++ after := ⟨right, htmlEq⟩
      have tagLeading :
          ['<', 's', 'p', 'a', 'n'] <+: Segment.render ⟨content, some name⟩ :=
        ⟨_, rfl⟩
      have headLeading : head <+: Segment.render ⟨content, some name⟩ :=
        ⟨rest, whole.symm⟩
      rcases List.prefix_or_prefix_of_prefix tagLeading headLeading with
        opened | short
      · have quiet := quiet_of_mem_classNames known '<' (by decide)
        rw [insideToken_of_token beforeMarkup quiet restNonempty whole opened]
          at outside
        cases outside
      · exact not_prefix_of_opening noQuote capital whole short leading

/-! ## All fragments -/

/-- The first divider that divides leaves a fragment before it and markup after
it. -/
theorem isFragment_of_find? {html left right : Text}
    (found : find? language.renderedDivider html = some (left, right))
    (markup : IsMarkup html) :
    IsFragment language left ∧ IsMarkup right := by
  obtain ⟨text, isToken, rfl, written, outside⟩ := find?_sound found
  rw [List.append_assoc] at markup
  cases isToken with
  | false =>
      exact isFragment_around_bare written (by simpa using outside) markup
  | true =>
      obtain ⟨leftMarkup, rightMarkup⟩ := isMarkup_around_token written markup
      exact ⟨Or.inl leftMarkup, rightMarkup⟩

/-- Every cut of markup at its dividers leaves fragments. -/
theorem isFragment_of_mem_cut {count : Nat} {html fragment : Text}
    (markup : IsMarkup html)
    (member : fragment ∈ (cut language.renderedDivider count html).1) :
    IsFragment language fragment := by
  -- What is left to cut is markup, whole again after each divider.
  induction count generalizing html with
  | zero =>
      cases member
  | succ count inductionHypothesis =>
      cases found : find? language.renderedDivider html with
      | none =>
          simp only [cut, found, List.mem_cons] at member
          rcases member with rfl | later
          · exact Or.inl markup
          · exact inductionHypothesis isMarkup_nil later
      | some parts =>
          obtain ⟨left, right⟩ := parts
          obtain ⟨leftFragment, rightMarkup⟩ := isFragment_of_find? found markup
          simp only [cut, found, List.mem_cons] at member
          rcases member with rfl | later
          · exact leftFragment
          · exact inductionHypothesis rightMarkup later

theorem IsFragment.balanced {html : Text} (fragment : IsFragment language html) :
    Text.occurrences ['<', 's', 'p', 'a', 'n'] html =
      Text.occurrences tokenEnd html := by
  rcases fragment with markup | ⟨markup, head, rest, rfl, isMarkup, cuts, _⟩
  · exact markup.balanced
  · exact isMarkup.balanced_append
      (not_mem_of_cutsEntity cuts '<' (by decide)).1

/-! ## Fragments that end inside an entity -/

theorem not_isMarkup_of_cutsEntity {head rest : Text}
    (cuts : Html.CutsEntity head rest) :
    ¬ IsMarkup head := by
  intro markup
  have readBack :=
    markup.eq_escape (not_mem_of_cutsEntity cuts '<' (by decide)).1
  obtain ⟨isEntity, nonempty, restNonempty⟩ := cuts
  have headEq : head = (head ++ rest).take head.length := by
    simp
  have short : head.length < (head ++ rest).length := by
    have := List.length_pos_iff.mpr restNonempty
    rw [List.length_append]
    omega
  have never :
      ∀ entity ∈ Html.entities, ∀ length < entity.length, 0 < length →
        entity.take length ≠
          Html.escape (Html.unescape (entity.take length)) := by
    decide
  have differs :=
    never _ isEntity head.length short (List.length_pos_iff.mpr nonempty)
  rw [← headEq] at differs
  exact differs readBack

/-- A divider that starts with the rest of an entity, and stands after its first
part, is not found before the entity. -/
theorem cutsEntity_of_find? {head rest left right : Text}
    (cuts : Html.CutsEntity head rest)
    (leading : rest <+: language.renderedDivider)
    (noTag : '<' ∉ head ++ language.renderedDivider)
    (found : find? language.renderedDivider
      (head ++ language.renderedDivider) = some (left, right)) :
    ∃ rest', Html.CutsEntity left rest' := by
  obtain ⟨text, isToken, htmlEq, written, _⟩ := find?_sound found
  have leftNonempty : left ≠ [] := by
    rintro rfl
    rw [List.nil_append] at htmlEq
    obtain ⟨first, others, rfl⟩ := List.exists_cons_of_ne_nil cuts.2.1
    have ampersandFirst : ∀ entity ∈ Html.entities, entity.head? = some '&' := by
      decide
    obtain rfl : first = '&' := by
      simpa using ampersandFirst _ cuts.1
    cases written with
    | @bare lead trail leadKnown _ =>
        simp only [lineFeeds, List.mem_cons, List.not_mem_nil, or_false]
          at leadKnown
        rcases leadKnown with rfl | rfl
        · obtain ⟨first', others', rfl⟩ := List.exists_cons_of_ne_nil cuts.2.2
          obtain ⟨after, dividerEq⟩ := leading
          rw [← dividerEq] at htmlEq
          obtain ⟨rfl, _⟩ := List.cons.inj htmlEq
          exact cuts.quiet '&' List.mem_cons_self (by decide)
        · exact absurd (List.cons.inj htmlEq).1 (by decide)
    | @token lead name ending _ _ _ =>
        have inTag : '<' ∈ openingTag name :=
          List.mem_append_left _ (List.mem_append_left _ (by decide))
        apply noTag
        rw [htmlEq]
        simp [inTag]
  have leftLeading : left <+: head ++ language.renderedDivider :=
    ⟨text ++ right, by rw [htmlEq, List.append_assoc]⟩
  have short : left.length ≤ head.length := by
    have textLength := written.infix.length_le
    have whole := congrArg List.length htmlEq
    simp only [List.length_append] at whole
    omega
  obtain ⟨more, rfl⟩ :=
    List.prefix_of_prefix_length_le leftLeading (List.prefix_append _ _) short
  refine ⟨more ++ rest, ?_, leftNonempty, ?_⟩
  · rw [← List.append_assoc]
    exact cuts.1
  · simp [cuts.2.2]

/-- If the comment symbol starts with the rest of an entity, there is code that
is cut inside that entity. -/
theorem exists_not_isMarkup {head rest : Text}
    (cuts : Html.CutsEntity head rest) (leading : rest <+: language.symbol) :
    ∃ code, ∃ fragment ∈
      (split language.renderedDivider 1 (unwrap (renderSpans code []))).1,
        ¬ IsMarkup fragment := by
  obtain ⟨more, symbolEq⟩ := leading
  obtain ⟨c, charEq⟩ := Html.exists_escapeChar_eq cuts.1
  have dividerEq :
      language.renderedDivider =
        rest ++ Html.escape (more ++ Language.dividerWord) := by
    have restEq : Html.escape rest = rest :=
      Html.escape_eq_self cuts.quiet
    rw [language.renderedDivider_eq, Language.dividerLine, ← symbolEq,
      List.append_assoc, Html.escape_append, restEq]
  let code : Text := [c] ++ (more ++ Language.dividerWord)
  have htmlEq :
      unwrap (renderSpans code []) = head ++ language.renderedDivider := by
    rw [renderSpans_eq, unwrap_wrap, markupFrom_nil, Html.escape_append,
      Html.escape_singleton, charEq, dividerEq, List.append_assoc]
  have noTag : '<' ∉ head ++ language.renderedDivider := by
    rw [← htmlEq, renderSpans_eq, unwrap_wrap, markupFrom_nil]
    exact Html.not_mem_escape_of_significant code (by decide)
  rcases find?_text language.renderedDivider_ne_nil noTag with
    ⟨_, absent⟩ | ⟨left, right, found, _, _⟩
  · exact absurd (List.suffix_append _ _).isInfix absent
  · obtain ⟨rest', leftCuts⟩ :=
      cutsEntity_of_find? cuts ⟨_, dividerEq.symm⟩ noTag found
    refine ⟨code, left, ?_, not_isMarkup_of_cutsEntity leftCuts⟩
    rw [htmlEq]
    simp [split, cut, found]

/-- Splitting never cuts a token, and every fragment closes all tokens that it
opens.  The fragments are whole markup for all code exactly if the comment
symbol does not start with the rest of an entity. -/
theorem split_keeps_markup (language : Language) :
    (∀ (code : Text) (spans : List Span) (count : Nat),
      (∀ span ∈ spans, span.className ∈ classNames) →
      ∀ fragment ∈ (split language.renderedDivider count
          (unwrap (renderSpans code spans))).1,
        IsFragment language fragment ∧
          Text.occurrences ['<', 's', 'p', 'a', 'n'] fragment =
            Text.occurrences tokenEnd fragment) ∧
    ((∀ (code : Text) (spans : List Span) (count : Nat),
      (∀ span ∈ spans, span.className ∈ classNames) →
      ∀ fragment ∈ (split language.renderedDivider count
          (unwrap (renderSpans code spans))).1,
        IsMarkup fragment) ↔
      ∀ head rest, Html.CutsEntity head rest → ¬ rest <+: language.symbol) := by
  have fragments :
      ∀ (code : Text) (spans : List Span) (count : Nat),
        (∀ span ∈ spans, span.className ∈ classNames) →
        ∀ fragment ∈ (split language.renderedDivider count
            (unwrap (renderSpans code spans))).1,
          IsFragment language fragment := by
    intro code spans count known fragment member
    rw [renderSpans_eq, unwrap_wrap] at member
    exact isFragment_of_mem_cut (isMarkup_markupFrom 0 code known) member
  refine ⟨fun code spans count known fragment member => ?_, ?_, ?_⟩
  · have isFragment := fragments code spans count known fragment member
    exact ⟨isFragment, isFragment.balanced⟩
  · intro whole head rest cuts leading
    obtain ⟨code, fragment, member, notMarkup⟩ := exists_not_isMarkup cuts leading
    exact notMarkup (whole code [] 1 (by simp) fragment member)
  · intro clear code spans count known fragment member
    rcases fragments code spans count known fragment member with
      markup | ⟨_, head, rest, _, _, cuts, leading⟩
    · exact markup
    · exact absurd leading (clear head rest cuts)

/-- A string that looks like a divider stays whole, and the comment after it
divides. -/
theorem split_keeps_markup_python :
    IsFragment ⟨"python", "#", ["py"]⟩
        ("s = <span class=\"s\">&#39;#DIVIDER&#39;</span>" : Text) ∧
      Text.occurrences ['<', 's', 'p', 'a', 'n']
          "s = <span class=\"s\">&#39;#DIVIDER&#39;</span>" =
        Text.occurrences tokenEnd
          "s = <span class=\"s\">&#39;#DIVIDER&#39;</span>" :=
  (split_keeps_markup ⟨"python", "#", ["py"]⟩).1
    "s = '#DIVIDER'\n#DIVIDER\nx" [⟨4, 14, "s"⟩, ⟨15, 23, "c1"⟩] 2
    (by decide) _ (by decide)

/-- With the comment symbol `;` a less-than sign before the divider word is cut:
the fragment before it is not markup. -/
theorem split_semicolon_cuts_entity :
    ¬ ∀ fragment ∈
        (split (Language.renderedDivider ⟨"lisp", ";", ["lisp"]⟩) 2
          (unwrap (renderSpans "a <DIVIDER" []))).1,
      IsMarkup fragment := by
  intro whole
  have markup : IsMarkup ("a &lt" : Text) :=
    whole "a &lt" (by decide)
  have readBack := markup.eq_escape (by decide)
  revert readBack
  decide

end Divider
end Marginalia
