import Marginalia.Proofs.Divider.Fragment

/-!
# Matches that divide

The search refuses a bare match inside a token and goes on after its end.  A refused
match lies inside one token, so nothing that divides starts in it: this is what every
step of the search preserves, and why the search stops at the leftmost match that
divides.
-/

namespace Marginalia
namespace Divider

open Highlight

/-! ## Matches that divide -/

/-- A match starts after some HTML and divides, and the given HTML follows it. -/
def Accepts (divider left html right : Text) : Prop :=
  ∃ isToken, matchAt? divider html = some ⟨isToken, right⟩ ∧
    (isToken = true ∨ insideToken left = false)

theorem Accepts.unique {divider left html right right' : Text}
    (accepts : Accepts divider left html right)
    (accepts' : Accepts divider left html right') :
    right = right' := by
  obtain ⟨isToken, matched, _⟩ := accepts
  obtain ⟨isToken', matched', _⟩ := accepts'
  rw [matched] at matched'
  exact (Match.mk.inj (Option.some.inj matched')).2

variable {language : Language}

theorem capital_mem_of_written {text : Text} {isToken : Bool}
    (written : Written language.renderedDivider isToken text) : 'D' ∈ text :=
  written.infix.mem language.capital_mem_renderedDivider

theorem not_accepts_nil {left right : Text} :
    ¬ Accepts language.renderedDivider left [] right := by
  rintro ⟨isToken, matched, _⟩
  have standing := divider_infix_of_matchAt? matched
  exact language.renderedDivider_ne_nil (List.infix_nil.mp standing)

/-! ## Steps of the search -/

theorem findFrom_skip (divider before passed html : Text) :
    findFrom divider before passed.length (passed ++ html) =
      findFrom divider (passed.reverse ++ before) 0 html := by
  induction passed generalizing before with
  | nil =>
      rfl
  | cons c passed inductionHypothesis =>
      have step :
          findFrom divider before (c :: passed).length (c :: passed ++ html) =
            findFrom divider (c :: before) passed.length (passed ++ html) :=
        rfl
      rw [step, inductionHypothesis, List.reverse_cons, List.append_assoc,
        List.singleton_append]

theorem findFrom_of_no_match {divider before rest : Text} {c : Char}
    (noMatch : matchAt? divider (c :: rest) = none) :
    findFrom divider before 0 (c :: rest) =
      findFrom divider (c :: before) 0 rest := by
  rw [findFrom, noMatch]

theorem findFrom_of_accepts {divider before html right : Text}
    (nonempty : html ≠ [])
    (accepts : Accepts divider before.reverse html right) :
    findFrom divider before 0 html = some (before.reverse, right) := by
  obtain ⟨isToken, matched, accepted⟩ := accepts
  obtain ⟨c, rest, rfl⟩ := List.exists_cons_of_ne_nil nonempty
  rw [findFrom, matched]
  exact if_pos (by simpa using accepted)

/-- After a refused match the search goes on at its end. -/
theorem findFrom_of_refused {divider before text rest : Text}
    (nonempty : text ≠ [])
    (matched : matchAt? divider (text ++ rest) = some ⟨false, rest⟩)
    (inside : insideToken before.reverse = true) :
    findFrom divider before 0 (text ++ rest) =
      findFrom divider (text.reverse ++ before) 0 rest := by
  obtain ⟨c, others, rfl⟩ := List.exists_cons_of_ne_nil nonempty
  have skipped : (others ++ rest).length - rest.length = others.length := by
    rw [List.length_append]
    omega
  rw [List.cons_append] at matched
  rw [List.cons_append, findFrom, matched]
  simp only [inside, Bool.not_true, Bool.or_self, Bool.false_eq_true, if_false,
    skipped]
  rw [findFrom_skip, List.reverse_cons, List.append_assoc, List.singleton_append]

/-! ## Refused matches -/

theorem insideToken_markup_append {html text : Text} (markup : IsMarkup html)
    (noTag : '<' ∉ text) :
    insideToken (html ++ text) = false := by
  rw [insideToken, markup.balanced_append noTag]
  simp

theorem insideToken_markup {html : Text} (markup : IsMarkup html) :
    insideToken html = false := by
  simpa using insideToken_markup_append markup (List.not_mem_nil : '<' ∉ [])

/-- A bare match inside a token ends inside it, and so the whole match lies
there. -/
theorem insideToken_of_refused {left text rest passed others : Text}
    (written : Written language.renderedDivider false text)
    (inside : insideToken left = true)
    (markup : IsMarkup (left ++ (text ++ rest)))
    (parts : text = passed ++ others) :
    insideToken (left ++ passed) = true := by
  have capital : 'D' ∈ text := capital_mem_of_written written
  have noQuote : '"' ∉ text := not_mem_of_bare written (by decide)
  have noEnd : '>' ∉ text := not_mem_of_bare written (by decide)
  generalize htmlEq : text ++ rest = html at markup
  cases markup.cut with
  | clean leftMarkup _ =>
      rw [insideToken_markup leftMarkup] at inside
      cases inside
  | entity beforeMarkup cuts _ =>
      have noTag := (not_mem_of_cutsEntity cuts '<' (by decide)).1
      rw [insideToken_markup_append beforeMarkup noTag] at inside
      cases inside
  | @token before head tail after content name beforeMarkup known _ tailNonempty
      whole _ =>
      have leading : text <+: tail ++ after := ⟨rest, htmlEq⟩
      have tagLeading :
          ['<', 's', 'p', 'a', 'n'] <+: Segment.render ⟨content, some name⟩ :=
        ⟨_, rfl⟩
      have headLeading : head <+: Segment.render ⟨content, some name⟩ :=
        ⟨tail, whole.symm⟩
      rcases List.prefix_or_prefix_of_prefix tagLeading headLeading with
        opened | short
      · obtain ⟨initial, rfl⟩ := exists_end_of_token tailNonempty whole
        rw [List.append_assoc, List.singleton_append] at leading
        obtain ⟨more, rfl⟩ := Text.prefix_of_prefix_append_cons noEnd leading
        have wholeParts :
            Segment.render ⟨content, some name⟩ =
              head ++ passed ++ (others ++ more ++ ['>']) := by
          rw [whole, parts]
          simp only [List.append_assoc]
        have openedParts : ['<', 's', 'p', 'a', 'n'] <+: head ++ passed :=
          opened.trans (List.prefix_append head passed)
        rw [List.append_assoc]
        exact insideToken_of_token beforeMarkup
          (quiet_of_mem_classNames known '<' (by decide)) (by simp) wholeParts
          openedParts
      · exact absurd leading
          (not_prefix_of_opening noQuote capital whole short)

/-- Nothing that divides starts in a refused match. -/
theorem not_accepts_in_refused {left text rest passed others right : Text}
    (written : Written language.renderedDivider false text)
    (inside : insideToken left = true)
    (markup : IsMarkup (left ++ (text ++ rest)))
    (parts : text = passed ++ others) :
    ¬ Accepts language.renderedDivider (left ++ passed) (others ++ rest)
      right := by
  have insideHere : insideToken (left ++ passed) = true :=
    insideToken_of_refused written inside markup parts
  rintro ⟨isToken, matched, accepted⟩
  cases isToken with
  | false =>
      rw [insideHere] at accepted
      simp at accepted
  | true =>
      -- A token starts outside all tokens, and here is the inside of one.
      obtain ⟨token, tokenWritten, htmlEq⟩ := matchAt?_sound matched
      rw [parts, List.append_assoc, ← List.append_assoc left] at markup
      cases tokenWritten with
      | @token lead name ending leadKnown nameKnown endingKnown =>
          have outside : IsMarkup (left ++ passed) ∧ IsMarkup (others ++ rest) := by
            apply isMarkup_before_token markup.cut leadKnown
            rw [htmlEq]
            simp only [List.append_assoc]
            rfl
          rw [insideToken_markup outside.1] at insideHere
          cases insideHere

/-! ## The answer of the search -/

/-- An answer to the search in some HTML after `left`: where the first match that
divides starts and what follows it, or that there is none. -/
def IsLeftmost (divider left html : Text) : Option (Text × Text) → Prop
  | none =>
      ∀ passed rest right, html = passed ++ rest →
        ¬ Accepts divider (left ++ passed) rest right
  | some (before, right) =>
      ∃ passed rest, html = passed ++ rest ∧ before = left ++ passed ∧
        Accepts divider before rest right ∧
        ∀ passed' rest' right', html = passed' ++ rest' →
          passed'.length < passed.length →
          ¬ Accepts divider (left ++ passed') rest' right'

/-- HTML in which nothing that divides starts does not change the answer. -/
theorem IsLeftmost.prepend {divider left text rest : Text}
    {answer : Option (Text × Text)}
    (quiet : ∀ passed others right, text = passed ++ others → others ≠ [] →
      ¬ Accepts divider (left ++ passed) (others ++ rest) right)
    (leftmost : IsLeftmost divider (left ++ text) rest answer) :
    IsLeftmost divider left (text ++ rest) answer := by
  -- Something that divides starts after the text.
  have later :
      ∀ {passed rest' right}, text ++ rest = passed ++ rest' →
        Accepts divider (left ++ passed) rest' right →
        ∃ more, passed = text ++ more ∧ rest = more ++ rest' := by
    intro passed rest' right whole accepts
    rcases List.append_eq_append_iff.mp whole with after | ⟨others, textEq, restEq⟩
    · exact after
    · by_cases atEnd : others = []
      · subst others
        refine ⟨[], ?_, restEq.symm⟩
        rw [textEq]
        simp
      · rw [restEq] at accepts
        exact absurd accepts (quiet passed others right textEq atEnd)
  cases answer with
  | none =>
      intro passed rest' right whole accepts
      obtain ⟨more, rfl, restEq⟩ := later whole accepts
      rw [← List.append_assoc] at accepts
      exact leftmost more rest' right restEq accepts
  | some around =>
      obtain ⟨before, right⟩ := around
      obtain ⟨passed, rest', restEq, beforeEq, accepts, first⟩ := leftmost
      refine ⟨text ++ passed, rest', ?_, ?_, accepts, ?_⟩
      · rw [restEq, List.append_assoc]
      · rw [beforeEq, List.append_assoc]
      · intro passed' rest'' right' whole shorter accepts'
        obtain ⟨more, rfl, restEq'⟩ := later whole accepts'
        rw [← List.append_assoc] at accepts'
        refine first more rest'' right' restEq' ?_ accepts'
        simpa using shorter

/-- The search in markup gives the leftmost answer: it passes over characters at
which nothing starts and over refused matches, until it accepts one. -/
theorem isLeftmost_findFrom {left html : Text}
    (markup : IsMarkup (left ++ html)) :
    IsLeftmost language.renderedDivider left html
      (findFrom language.renderedDivider left.reverse 0 html) := by
  induction sizeEq : html.length using Nat.strong_induction_on
    generalizing left html with
  | _ size inductionHypothesis =>
  cases html with
  | nil =>
      intro passed rest right whole
      obtain ⟨_, rfl⟩ := List.append_eq_nil_iff.mp whole.symm
      exact not_accepts_nil
  | cons c rest =>
      cases matched : matchAt? language.renderedDivider (c :: rest) with
      | none =>
          have later :
              IsLeftmost language.renderedDivider (left ++ [c]) rest
                (findFrom language.renderedDivider (left ++ [c]).reverse 0
                  rest) :=
            inductionHypothesis rest.length (by simp [← sizeEq])
              (by simpa using markup) rfl
          have quiet :
              ∀ passed others right, [c] = passed ++ others → others ≠ [] →
                ¬ Accepts language.renderedDivider (left ++ passed)
                  (others ++ rest) right := by
            rintro passed others right whole nonempty ⟨_, matched', _⟩
            rcases List.singleton_eq_append_iff.mp whole with
              ⟨_, rfl⟩ | ⟨_, empty⟩
            · rw [List.singleton_append, matched] at matched'
              cases matched'
            · exact nonempty empty
          rw [List.reverse_append] at later
          rw [findFrom_of_no_match matched]
          exact later.prepend quiet
      | some found =>
          obtain ⟨isToken, right⟩ := found
          obtain ⟨text, written, htmlEq⟩ := matchAt?_sound matched
          by_cases accepted : isToken = true ∨ insideToken left = false
          · have accepts :
                Accepts language.renderedDivider left.reverse.reverse (c :: rest)
                  right := by
              rw [List.reverse_reverse]
              exact ⟨isToken, matched, accepted⟩
            rw [findFrom_of_accepts (List.cons_ne_nil c rest) accepts]
            refine ⟨[], c :: rest, rfl, by simp, accepts, ?_⟩
            intro passed' rest' right' _ shorter
            cases shorter
          · rw [not_or, Bool.not_eq_true, Bool.not_eq_false] at accepted
            obtain ⟨rfl, inside⟩ := accepted
            dsimp only at written htmlEq
            have nonempty : text ≠ [] :=
              List.ne_nil_of_mem (capital_mem_of_written written)
            have shorter : right.length < size := by
              have positive := List.length_pos_iff.mpr nonempty
              rw [← sizeEq, htmlEq, List.length_append]
              omega
            rw [htmlEq] at markup matched ⊢
            have later :
                IsLeftmost language.renderedDivider (left ++ text) right
                  (findFrom language.renderedDivider (left ++ text).reverse 0
                    right) :=
              inductionHypothesis right.length shorter
                (by rw [List.append_assoc]; exact markup) rfl
            rw [List.reverse_append] at later
            rw [findFrom_of_refused nonempty matched
              (by rw [List.reverse_reverse]; exact inside)]
            exact later.prepend fun passed others right' parts _ =>
              not_accepts_in_refused written inside markup parts

end Divider
end Marginalia
