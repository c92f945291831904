import Marginalia.Language.Divider
import Marginalia.Proofs.Html.Escape
import Marginalia.Proofs.Text.Piece

/-!
# The search for dividers

The ways in which a divider may be written are a relation of its own.  A match
is one of them, and a search answers with the HTML around one of them.  A search
passes over HTML in which no match starts.
-/

namespace Marginalia

/-! ## The rendered divider -/

namespace Language

variable (language : Language)

theorem renderedDivider_eq :
    language.renderedDivider = Html.escape language.dividerLine := by
  rw [dividerLine, Html.escape_append]
  rfl

theorem not_mem_renderedDivider {c : Char} (significant : c ∈ ['<', '>', '"']) :
    c ∉ language.renderedDivider := by
  have delimits : ['<', '>', '"'] ⊆ Html.delimiters := by
    decide
  rw [renderedDivider_eq]
  exact Html.not_mem_escape_of_significant _ (delimits significant)

theorem capital_mem_renderedDivider : 'D' ∈ language.renderedDivider :=
  List.mem_append_right _ (by decide)

theorem renderedDivider_ne_nil : language.renderedDivider ≠ [] :=
  List.ne_nil_of_mem language.capital_mem_renderedDivider

variable {language}

theorem lineFeed_not_mem_renderedDivider (oneLine : '\n' ∉ language.symbol) :
    '\n' ∉ language.renderedDivider := by
  rw [renderedDivider, List.mem_append, not_or]
  exact ⟨Html.lineFeed_not_mem_escape oneLine, by decide⟩

end Language

namespace Divider

/-! ## Ways to write a divider -/

/-- An optional line feed. -/
def lineFeeds : List Text := [[], ['\n']]

def openingTag (name : Text) : Text :=
  tokenStart ++ name ++ ['"', '>']

/-- The end of a token that holds a divider, with an optional line feed before
or after it. -/
def tokenEndings : List Text :=
  ['\n' :: tokenEnd, tokenEnd, tokenEnd ++ ['\n']]

/-- The ways to write a divider, bare or as a token. -/
inductive Written (divider : Text) : Bool → Text → Prop
  | bare {lead trail : Text} :
      lead ∈ lineFeeds → trail ∈ lineFeeds →
      Written divider false (lead ++ divider ++ trail)
  | token {lead name ending : Text} :
      lead ∈ lineFeeds → name ∈ commentClasses → ending ∈ tokenEndings →
      Written divider true (lead ++ openingTag name ++ divider ++ ending)

theorem Written.infix {divider text : Text} {isToken : Bool}
    (written : Written divider isToken text) :
    divider <:+: text := by
  cases written with
  | @bare lead trail _ _ =>
      exact ⟨lead, trail, rfl⟩
  | @token lead name ending _ _ _ =>
      exact ⟨lead ++ openingTag name, ending, rfl⟩

/-- The part of a written divider from its tag on stands on one line, if the
divider does.  Only a line feed may stand before it. -/
theorem Written.exists_line {divider text : Text} {isToken : Bool}
    (oneLine : '\n' ∉ divider) (written : Written divider isToken text) :
    ∃ lead ∈ lineFeeds, ∃ line rest,
      text = lead ++ line ++ rest ∧ '\n' ∉ line ∧ divider <:+: line := by
  cases written with
  | @bare lead trail leadKnown _ =>
      exact ⟨lead, leadKnown, divider, trail, rfl, oneLine, List.infix_rfl⟩
  | @token lead name ending leadKnown nameKnown _ =>
      have tagOnLine : ∀ name ∈ commentClasses, '\n' ∉ openingTag name := by
        decide
      refine ⟨lead, leadKnown, openingTag name ++ divider, ending,
        by simp only [List.append_assoc], ?_, ?_⟩
      · rw [List.mem_append, not_or]
        exact ⟨tagOnLine name nameKnown, oneLine⟩
      · exact (List.suffix_append _ _).isInfix

/-! ## Matches -/

theorem exists_lineFeed_of_mem_afterLineFeed {html start : Text}
    (member : start ∈ afterLineFeed html) :
    ∃ lead ∈ lineFeeds, html = lead ++ start := by
  unfold afterLineFeed at member
  split at member
  · next rest =>
      rcases List.mem_cons.mp member with rfl | member
      · exact ⟨['\n'], by decide, rfl⟩
      · rw [List.mem_singleton] at member
        exact ⟨[], by decide, by rw [member, List.nil_append]⟩
  · rw [List.mem_singleton] at member
    exact ⟨[], by decide, by rw [member, List.nil_append]⟩

theorem exists_lineFeed_dropLineFeed (html : Text) :
    ∃ trail ∈ lineFeeds, html = trail ++ dropLineFeed html := by
  unfold dropLineFeed
  split
  · exact ⟨['\n'], by decide, rfl⟩
  · exact ⟨[], by decide, rfl⟩

theorem afterBare?_sound {divider html rest : Text}
    (found : afterBare? divider html = some rest) :
    ∃ trail ∈ lineFeeds, html = divider ++ trail ++ rest := by
  obtain ⟨tail, start, rfl⟩ := Option.map_eq_some_iff.mp found
  obtain ⟨trail, trailKnown, tailEq⟩ := exists_lineFeed_dropLineFeed tail
  refine ⟨trail, trailKnown, ?_⟩
  rw [Text.after?_eq_some_iff.mp start, List.append_assoc, ← tailEq]

theorem afterToken?_sound {divider html rest : Text}
    (found : afterToken? divider html = some rest) :
    ∃ name ∈ commentClasses, ∃ ending ∈ tokenEndings,
      html = openingTag name ++ divider ++ ending ++ rest := by
  simp only [afterToken?, Option.bind_eq_bind, Option.bind_eq_some_iff] at found
  obtain ⟨inner, start, body, classFound, tail, dividerFound, ended⟩ := found
  obtain ⟨name, nameKnown, nameFound⟩ :=
    List.exists_of_findSome?_eq_some classFound
  refine ⟨name, nameKnown, ?_⟩
  have htmlEq : html = openingTag name ++ divider ++ tail := by
    rw [Text.after?_eq_some_iff.mp start, Text.after?_eq_some_iff.mp nameFound,
      Text.after?_eq_some_iff.mp dividerFound]
    simp only [openingTag, List.append_assoc]
  split at ended
  · next after lineFeedFirst =>
      cases ended
      refine ⟨'\n' :: tokenEnd, by decide, ?_⟩
      rw [htmlEq, Text.after?_eq_some_iff.mp lineFeedFirst]
      simp only [List.append_assoc]
  · obtain ⟨after, ended', rfl⟩ := Option.map_eq_some_iff.mp ended
    obtain ⟨trail, trailKnown, afterEq⟩ := exists_lineFeed_dropLineFeed after
    have endings : ∀ trail ∈ lineFeeds, tokenEnd ++ trail ∈ tokenEndings := by
      decide
    refine ⟨tokenEnd ++ trail, endings trail trailKnown, ?_⟩
    rw [htmlEq, Text.after?_eq_some_iff.mp ended']
    simp only [List.append_assoc, ← afterEq]

/-- A match is a written divider and what follows it. -/
theorem matchAt?_sound {divider html : Text} {found : Match}
    (matched : matchAt? divider html = some found) :
    ∃ text, Written divider found.isToken text ∧ html = text ++ found.rest := by
  obtain ⟨start, member, found'⟩ := List.exists_of_findSome?_eq_some matched
  obtain ⟨lead, leadKnown, rfl⟩ := exists_lineFeed_of_mem_afterLineFeed member
  split at found'
  · next rest token =>
      cases found'
      obtain ⟨name, nameKnown, ending, endingKnown, rfl⟩ :=
        afterToken?_sound token
      exact ⟨_, Written.token leadKnown nameKnown endingKnown,
        by simp only [List.append_assoc]⟩
  · obtain ⟨rest, bare, rfl⟩ := Option.map_eq_some_iff.mp found'
    obtain ⟨trail, trailKnown, rfl⟩ := afterBare?_sound bare
    exact ⟨_, Written.bare leadKnown trailKnown,
      by simp only [List.append_assoc]⟩

theorem divider_infix_of_matchAt? {divider html : Text} {found : Match}
    (matched : matchAt? divider html = some found) :
    divider <:+: html := by
  obtain ⟨text, written, rfl⟩ := matchAt?_sound matched
  exact List.infix_append_of_infix_left written.infix

/-- Wherever a divider starts, there is a match. -/
theorem matchAt?_ne_none {divider html : Text} (leading : divider <+: html) :
    matchAt? divider html ≠ none := by
  intro noMatch
  have start : html ∈ afterLineFeed html := by
    unfold afterLineFeed
    split <;> simp
  have here := List.findSome?_eq_none_iff.mp noMatch html start
  obtain ⟨rest, rfl⟩ := leading
  split at here
  · cases here
  · simp [afterBare?] at here

/-! ## Searches -/

theorem findFrom_sound {divider before html left right : Text} {skip : Nat}
    (found : findFrom divider before skip html = some (left, right)) :
    ∃ passed text isToken, html = passed ++ text ++ right ∧
      left = before.reverse ++ passed ∧ Written divider isToken text ∧
        (isToken = true ∨ insideToken left = false) := by
  induction html generalizing before skip with
  | nil =>
      cases found
  | cons c rest inductionHypothesis =>
      -- Whatever is passed over, the next character moves to `before`.
      have step :
          ∀ {skip}, findFrom divider (c :: before) skip rest =
              some (left, right) →
            ∃ passed text isToken, c :: rest = passed ++ text ++ right ∧
              left = before.reverse ++ passed ∧
                Written divider isToken text ∧
                  (isToken = true ∨ insideToken left = false) := by
        intro skip found
        obtain ⟨passed, text, isToken, restEq, leftEq, written, outside⟩ :=
          inductionHypothesis found
        exact ⟨c :: passed, text, isToken, by rw [restEq]; rfl,
          by simpa using leftEq, written, outside⟩
      cases skip with
      | succ skip =>
          exact step found
      | zero =>
          rw [findFrom] at found
          split at found
          · exact step found
          · next found' matched =>
              split at found
              · next accepted =>
                  cases found
                  obtain ⟨text, written, htmlEq⟩ := matchAt?_sound matched
                  refine ⟨[], text, found'.isToken, htmlEq, by simp, written,
                    ?_⟩
                  simpa using accepted
              · exact step found

/-- A search answers with the HTML around a written divider, which is a token
or stands outside all tokens. -/
theorem find?_sound {divider html left right : Text}
    (found : find? divider html = some (left, right)) :
    ∃ text isToken, html = left ++ text ++ right ∧
      Written divider isToken text ∧
        (isToken = true ∨ insideToken left = false) := by
  obtain ⟨passed, text, isToken, htmlEq, leftEq, written, outside⟩ :=
    findFrom_sound found
  obtain rfl : left = passed := by simpa using leftEq
  exact ⟨text, isToken, htmlEq, written, outside⟩

/-- A search passes over HTML in which no match starts. -/
theorem findFrom_append {divider passed html : Text} (before : Text)
    (noMatch : ∀ rest, rest <:+ passed → rest ≠ [] →
      matchAt? divider (rest ++ html) = none) :
    findFrom divider before 0 (passed ++ html) =
      findFrom divider (passed.reverse ++ before) 0 html := by
  induction passed generalizing before with
  | nil =>
      rfl
  | cons c passed inductionHypothesis =>
      have noMatchHere : matchAt? divider (c :: (passed ++ html)) = none :=
        noMatch (c :: passed) List.suffix_rfl (List.cons_ne_nil c passed)
      have noMatchLater :
          ∀ rest, rest <:+ passed → rest ≠ [] →
            matchAt? divider (rest ++ html) = none := by
        intro rest isRest
        exact noMatch rest (isRest.trans (List.suffix_cons c passed))
      rw [List.cons_append, findFrom, noMatchHere]
      simp only [inductionHypothesis (c :: before) noMatchLater,
        List.reverse_cons, List.append_assoc, List.singleton_append]

theorem find?_eq_none {divider html : Text} (absent : ¬ divider <:+: html) :
    find? divider html = none := by
  have noMatch :
      ∀ rest, rest <:+ html → rest ≠ [] →
        matchAt? divider (rest ++ []) = none := by
    intro rest isRest _
    by_contra matched
    obtain ⟨found, matched⟩ := Option.ne_none_iff_exists'.mp matched
    rw [List.append_nil] at matched
    exact absent ((divider_infix_of_matchAt? matched).trans isRest.isInfix)
  have passedAll := findFrom_append [] noMatch
  rw [List.append_nil] at passedAll
  rw [find?, passedAll, findFrom]

/-! ## Searches in text -/

theorem insideToken_eq_false {text : Text} (noTag : '<' ∉ text) :
    insideToken text = false := by
  have noStart : Text.occurrences ['<', 's', 'p', 'a', 'n'] text = 0 :=
    Text.occurrences_eq_zero noTag
  simp [insideToken, noStart]

theorem findFrom_text {divider before text : Text} (nonempty : divider ≠ [])
    (noTagBefore : '<' ∉ before) (noTag : '<' ∉ text) :
    (findFrom divider before 0 text = none ∧ ¬ divider <:+: text) ∨
      ∃ passed right,
        findFrom divider before 0 text =
          some (before.reverse ++ passed, right) ∧
        passed <+: text ∧ ¬ divider <:+: passed := by
  have notInNil : ¬ divider <:+: [] := by
    rw [List.infix_nil]
    exact nonempty
  induction text generalizing before with
  | nil =>
      exact Or.inl ⟨rfl, notInNil⟩
  | cons c rest inductionHypothesis =>
      rw [List.mem_cons, not_or] at noTag
      cases matched : matchAt? divider (c :: rest) with
      | none =>
          have notHere : ¬ divider <+: c :: rest :=
            fun leading => matchAt?_ne_none leading matched
          have noTagBefore' : '<' ∉ c :: before := by
            rw [List.mem_cons, not_or]
            exact ⟨noTag.1, noTagBefore⟩
          have step :
              findFrom divider before 0 (c :: rest) =
                findFrom divider (c :: before) 0 rest := by
            rw [findFrom, matched]
          rw [step]
          rcases inductionHypothesis noTagBefore' noTag.2 with
            ⟨notFound, absent⟩ | ⟨passed, right, found, leading, absent⟩
          · refine Or.inl ⟨notFound, ?_⟩
            rw [List.infix_cons_iff, not_or]
            exact ⟨notHere, absent⟩
          · have longer : c :: passed <+: c :: rest :=
              List.cons_prefix_cons.mpr ⟨rfl, leading⟩
            refine Or.inr ⟨c :: passed, right, by simpa using found, longer, ?_⟩
            rw [List.infix_cons_iff, not_or]
            exact ⟨fun leading => notHere (leading.trans longer), absent⟩
      | some found =>
          have outside : insideToken before.reverse = false :=
            insideToken_eq_false (by simpa using noTagBefore)
          refine Or.inr ⟨[], found.rest, ?_, List.nil_prefix, notInNil⟩
          rw [findFrom, matched]
          simp [outside]

/-- Text without tags is divided at the first place of the divider, if there is
one. -/
theorem find?_text {divider text : Text} (nonempty : divider ≠ [])
    (noTag : '<' ∉ text) :
    (find? divider text = none ∧ ¬ divider <:+: text) ∨
      ∃ left right, find? divider text = some (left, right) ∧
        left <+: text ∧ ¬ divider <:+: left :=
  findFrom_text nonempty List.not_mem_nil noTag

end Divider

end Marginalia
