import Marginalia.Language.Registry
import Marginalia.Proofs.Body.Recombination
import Marginalia.Proofs.Divider.Fragment

/-!
# Code without spans

A highlighter that gives no spans escapes the code and does nothing else.  Then
every section keeps its own code exactly if no code line has the divider line in
it.  It is not enough that no line is identical to the divider line: such lines
are comments and never reach the code.  What is moved to the next section, or
lost, is the code after a divider line inside another line.
-/

namespace Marginalia

/-! ## Code lines of sections -/

namespace Section

variable {language : Language} {piece : Text}

/-- Code that is empty or ends with a line feed. -/
def EndsLine (code : Text) : Prop :=
  code = [] ∨ ∃ initial, code = initial ++ ['\n']

theorem infix_addCode_iff (oneLine : '\n' ∉ piece) (nonempty : piece ≠ [])
    {part : Section} (ends : EndsLine part.code) (line : Text) :
    piece <:+: (part.addCode line).code ↔
      piece <:+: part.code ∨ piece <:+: line := by
  have notInNil : ¬ piece <:+: [] := by
    rw [List.infix_nil]
    exact nonempty
  have lineEnd :
      piece <:+: part.code ++ line ++ ['\n'] ↔ piece <:+: part.code ++ line := by
    rw [Text.infix_append_cons_iff oneLine]
    simp [notInNil]
  rw [addCode, lineEnd]
  rcases ends with empty | ⟨initial, codeEq⟩
  · simp [empty, notInNil]
  · rw [codeEq, List.append_assoc, List.singleton_append,
      Text.infix_append_cons_iff oneLine, Text.infix_append_cons_iff oneLine]
    simp [notInNil]

theorem exists_infix_code_iff (oneLine : '\n' ∉ piece) (nonempty : piece ≠ [])
    (lines : List Text) (current : Section) (hasCode : Bool)
    (ends : EndsLine current.code) :
    (∃ part ∈ ofLinesFrom language current hasCode lines,
        piece <:+: part.code) ↔
      piece <:+: current.code ∨
        ∃ line ∈ lines, language.isComment line = false ∧ piece <:+: line := by
  -- The code so far ends with a line feed, so no piece reaches into the next
  -- line.
  induction lines generalizing current hasCode with
  | nil =>
      simp [ofLinesFrom]
  | cons line lines inductionHypothesis =>
      cases comment : language.isComment line with
      | true =>
          cases hasCode with
          | true =>
              have next :=
                inductionHypothesis (addComment language {} line) false
                  (Or.inl rfl)
              have emptyCode : ¬ piece <:+: (addComment language {} line).code := by
                rw [show (addComment language {} line).code = [] from rfl,
                  List.infix_nil]
                exact nonempty
              simp [ofLinesFrom, comment, next, emptyCode]
          | false =>
              have next :=
                inductionHypothesis (current.addComment language line) false
                  ends
              rw [show (current.addComment language line).code = current.code
                from rfl] at next
              simp [ofLinesFrom, comment, next]
      | false =>
          have next :=
            inductionHypothesis (current.addCode line) true
              (Or.inr ⟨current.code ++ line, rfl⟩)
          rw [infix_addCode_iff oneLine nonempty ends] at next
          simp [ofLinesFrom, comment, next, or_assoc]

theorem ofLinesFrom_ne_nil (lines : List Text) (current : Section)
    (hasCode : Bool) :
    ofLinesFrom language current hasCode lines ≠ [] := by
  induction lines generalizing current hasCode with
  | nil =>
      simp [ofLinesFrom]
  | cons line lines inductionHypothesis =>
      rw [ofLinesFrom]
      split
      · split
        · exact List.cons_ne_nil _ _
        · exact inductionHypothesis _ _
      · exact inductionHypothesis _ _

theorem parse_ne_nil (contents : Text) (firstLine : Nat) :
    parse language contents firstLine ≠ [] :=
  ofLinesFrom_ne_nil _ _ _

/-- A piece of one line stands in the code of a file's sections exactly if it
stands in a code line of the file. -/
theorem exists_infix_parse_iff (oneLine : '\n' ∉ piece) (nonempty : piece ≠ [])
    (contents : Text) (firstLine : Nat) :
    (∃ part ∈ parse language contents firstLine, piece <:+: part.code) ↔
      ∃ line ∈ contents.lines.drop firstLine,
        language.isComment line = false ∧ piece <:+: line := by
  have empty : ¬ piece <:+: ({} : Section).code := by
    rw [List.infix_nil]
    exact nonempty
  rw [parse, exists_infix_code_iff oneLine nonempty _ _ _ (Or.inl rfl)]
  exact or_iff_right empty

end Section

/-! ## Dividers in escaped code -/

/-- Unless the comment symbol starts with the rest of an entity, escaped code
has the rendered divider in it exactly if the code has the divider line in
it. -/
theorem Language.renderedDivider_infix_escape_iff {language : Language}
    (clear : ∀ head rest, Html.CutsEntity head rest →
      ¬ rest <+: language.symbol) (code : Text) :
    language.renderedDivider <:+: Html.escape code ↔
      language.dividerLine <:+: code := by
  constructor
  · rintro ⟨before, after, htmlEq⟩
    rw [List.append_assoc] at htmlEq
    rcases Html.escape_eq_append htmlEq.symm with
      ⟨left, right, rfl, _, rightEq⟩ | ⟨_, _, _, head, rest, _, _, rightEq, cuts⟩
    · have leading : language.dividerLine <+: right := by
        rw [← Html.escape_prefix_iff, ← language.renderedDivider_eq, ← rightEq]
        exact List.prefix_append _ after
      exact List.infix_append_of_infix_right leading.isInfix
    · have leading : rest <+: language.renderedDivider ++ after := by
        rw [rightEq]
        exact List.prefix_append rest _
      exact absurd (Divider.rest_prefix_symbol cuts leading)
        (clear head rest cuts)
  · rintro ⟨before, after, rfl⟩
    refine ⟨Html.escape before, Html.escape after, ?_⟩
    rw [language.renderedDivider_eq, Html.escape_append, Html.escape_append]

theorem Html.CutsEntity.semicolon_mem {head rest : Text}
    (cuts : Html.CutsEntity head rest) : ';' ∈ rest := by
  obtain ⟨isEntity, _, nonempty⟩ := cuts
  have endings : ∀ entity ∈ Html.entities, entity.getLast? = some ';' := by
    decide
  have ending := endings _ isEntity
  rw [List.getLast?_append_of_ne_nil head nonempty] at ending
  exact List.mem_of_getLast? ending

/-- The comment symbols of the built-in languages stand on one line and start
with the rest of no entity. -/
theorem Registry.builtin_symbols {language : Language}
    (builtin : language ∈ Registry.builtin.languages) :
    '\n' ∉ language.symbol ∧
      ∀ head rest, Html.CutsEntity head rest → ¬ rest <+: language.symbol := by
  have symbols :
      ∀ language ∈ Registry.builtin.languages,
        '\n' ∉ language.symbol ∧ ';' ∉ language.symbol := by
    decide
  obtain ⟨oneLine, noSemicolon⟩ := symbols language builtin
  refine ⟨oneLine, fun head rest cuts leading => noSemicolon ?_⟩
  exact leading.subset cuts.semicolon_mem

namespace Divider

/-- The fragments of text have no divider in them. -/
theorem not_infix_of_mem_cut {divider text fragment : Text} {count : Nat}
    (nonempty : divider ≠ []) (noTag : '<' ∉ text)
    (member : fragment ∈ (cut divider count text).1) :
    ¬ divider <:+: fragment := by
  induction count generalizing text with
  | zero =>
      cases member
  | succ count inductionHypothesis =>
      rcases find?_text nonempty noTag with
        ⟨notFound, absent⟩ | ⟨left, right, found, _, absent⟩
      · simp only [cut, notFound, List.mem_cons] at member
        rcases member with rfl | later
        · exact absent
        · exact inductionHypothesis List.not_mem_nil later
      · obtain ⟨matched, _, rfl, _, _⟩ := find?_sound found
        simp only [cut, found, List.mem_cons] at member
        rcases member with rfl | later
        · exact absent
        · exact inductionHypothesis
            (fun inRight => noTag (List.mem_append_right _ inRight)) later

end Divider

namespace Body

open Highlight Divider

/-- The highlighter that only escapes. -/
def plainHighlighter : Highlighter :=
  fun _ code => .ok (renderSpans code [])

def Block.plain (part : Section) : Block :=
  ⟨part, [], by simp, by simp⟩

@[simp]
theorem Block.markup_plain (part : Section) :
    (Block.plain part).markup = Html.escape part.code :=
  markupFrom_nil 0 part.code

/-- Sections without spans, each with a plain divider line after it. -/
def plainBlocks (sections : List Section) :
    List (Block × Option CommentClass) :=
  sections.map fun part => (Block.plain part, none)

theorem plainBlocks_append (leading : List Section) (last : Section) :
    (plainBlocks leading).map Prod.fst ++ [Block.plain last] =
      (leading ++ [last]).map Block.plain := by
  simp [plainBlocks, Function.comp_def]

@[simp]
theorem joinedSpans_plain (language : Language) (offset : Nat)
    (leading : List Section) (last : Section) :
    joinedSpans language offset (plainBlocks leading) (Block.plain last) =
      [] := by
  induction leading generalizing offset with
  | nil =>
      rfl
  | cons part leading inductionHypothesis =>
      exact inductionHypothesis _

/-- The escaped joined code of sections is the interleaving of the escaped code
of each. -/
theorem escape_joinCode (language : Language) (leading : List Section)
    (last : Section) :
    Html.escape (joinCode language ((leading ++ [last]).map Section.code)) =
      interleaved language.renderedDivider
        ((plainBlocks leading).map fun (block, name?) =>
          (block.markup, formOf name?))
        (Block.plain last).markup := by
  have codeEq :
      joinedCode language (plainBlocks leading) (Block.plain last) =
        joinCode language ((leading ++ [last]).map Section.code) := by
    rw [joinedCode, plainBlocks_append, List.map_map]
    rfl
  rw [← codeEq, ← markupFrom_nil 0, ← joinedSpans_plain language 0 leading last,
    markupFrom_joinedCode]

theorem map_codeHtml_zipWith (markdown : MarkdownRenderer)
    {sections : List Section} {fragments : List Text}
    (lengthEq : fragments.length = sections.length) :
    (List.zipWith (withHtml markdown) sections fragments).map Section.codeHtml =
      fragments.map wrap := by
  apply List.ext_getElem
  · simp [lengthEq]
  · intro position _ _
    simp [withHtml]

theorem codeHtml_highlight_plain (language : Language)
    (markdown : MarkdownRenderer) (sections : List Section) :
    (highlight language plainHighlighter markdown sections).map
        (fun answer => answer.1.map Section.codeHtml) =
      .ok ((split language.renderedDivider sections.length
        (Html.escape (joinCode language (sections.map Section.code)))).1.map
          wrap) := by
  have answers :
      plainHighlighter language (joinCode language (sections.map Section.code)) =
        .ok (wrap
          (Html.escape (joinCode language (sections.map Section.code)))) := by
    rw [plainHighlighter, renderSpans_eq, markupFrom_nil]
  rw [highlight_eq markdown answers, unwrap_wrap]
  exact congrArg Except.ok (map_codeHtml_zipWith markdown (length_cut _ _ _))

/-- The escaped joined code of sections is cut into the escaped code of each
exactly if none of these has a divider in it. -/
theorem split_escape_joinCode_iff {language : Language}
    (oneLine : '\n' ∉ language.symbol) {sections : List Section}
    (nonempty : sections ≠ []) :
    (split language.renderedDivider sections.length
        (Html.escape (joinCode language (sections.map Section.code)))).1 =
      sections.map (fun part => Html.escape part.code) ↔
    ∀ part ∈ sections,
      ¬ language.renderedDivider <:+: Html.escape part.code := by
  constructor
  · intro fragmentsEq part member
    have noTag :
        '<' ∉ Html.escape (joinCode language (sections.map Section.code)) :=
      Html.not_mem_escape_of_significant _ (by decide)
    have fragment :
        Html.escape part.code ∈
          (cut language.renderedDivider sections.length
            (Html.escape (joinCode language (sections.map Section.code)))).1 := by
      show _ ∈ (split language.renderedDivider sections.length
        (Html.escape (joinCode language (sections.map Section.code)))).1
      rw [fragmentsEq]
      exact List.mem_map_of_mem member
    exact not_infix_of_mem_cut language.renderedDivider_ne_nil noTag fragment
  · intro clean
    obtain ⟨leading, last, rfl⟩ :=
      (List.eq_nil_or_concat' sections).resolve_left nonempty
    have blocksClean :
        ∀ block ∈ (plainBlocks leading).map Prod.fst ++ [Block.plain last],
          ¬ language.renderedDivider <:+: Html.escape block.part.code := by
      rw [plainBlocks_append]
      intro block member
      obtain ⟨part, partMember, rfl⟩ := List.mem_map.mp member
      exact clean part partMember
    have fragments := split_blocks oneLine blocksClean
    rw [plainBlocks_append, List.length_map, ← escape_joinCode, List.map_map]
      at fragments
    rw [fragments]
    exact List.map_congr_left fun part _ => Block.markup_plain part

/-- For the built-in languages, a file whose code is only escaped keeps the code
of every section exactly if no code line has the divider line in it. -/
theorem codeHtml_highlight_parse_iff (language : Language)
    (builtin : language ∈ Registry.builtin.languages)
    (markdown : MarkdownRenderer) (contents : Text) (firstLine : Nat) :
    (highlight language plainHighlighter markdown
          (Section.parse language contents firstLine)).map
        (fun answer => answer.1.map Section.codeHtml) =
      .ok ((Section.parse language contents firstLine).map
        fun part => renderSpans part.code []) ↔
    ∀ line ∈ contents.lines.drop firstLine, language.isComment line = false →
      ¬ language.dividerLine <:+: line := by
  obtain ⟨oneLine, clear⟩ := Registry.builtin_symbols builtin
  have dividerNonempty : language.dividerLine ≠ [] :=
    List.append_ne_nil_of_right_ne_nil _ (by decide)
  have dividerOneLine : '\n' ∉ language.dividerLine := by
    rw [Language.dividerLine, List.mem_append, not_or]
    exact ⟨oneLine, by decide⟩
  have wrappedEq :
      (Section.parse language contents firstLine).map
          (fun part => renderSpans part.code []) =
        ((Section.parse language contents firstLine).map
          (fun part => Html.escape part.code)).map wrap := by
    simp [renderSpans_eq]
  have wrapInjective : Function.Injective wrap :=
    Function.LeftInverse.injective unwrap_wrap
  have standsInLine :=
    @Section.exists_infix_parse_iff language _ dividerOneLine dividerNonempty
      contents firstLine
  rw [codeHtml_highlight_plain, wrappedEq, Except.ok.injEq,
    (List.map_injective_iff.mpr wrapInjective).eq_iff,
    split_escape_joinCode_iff oneLine (Section.parse_ne_nil _ _)]
  simp only [Language.renderedDivider_infix_escape_iff clear]
  constructor
  · intro clean line member notComment standing
    obtain ⟨part, partMember, inCode⟩ :=
      standsInLine.mpr ⟨line, member, notComment, standing⟩
    exact clean part partMember inCode
  · intro clean part member inCode
    obtain ⟨line, lineMember, notComment, standing⟩ :=
      standsInLine.mp ⟨part, member, inCode⟩
    exact clean line lineMember notComment standing

/-- A comment line that is identical to the divider line does no harm. -/
theorem codeHtml_highlight_parse_python :
    (highlight ⟨"python", "#", ["py"]⟩ plainHighlighter (fun prose => prose)
          (Section.parse ⟨"python", "#", ["py"]⟩
            "x = 1 # DIVIDER\n#DIVIDER\ny < 2" 0)).map
        (fun answer => answer.1.map Section.codeHtml) =
      .ok ["<div class=\"highlight\"><pre>x = 1 # DIVIDER\n</pre></div>",
        "<div class=\"highlight\"><pre>y &lt; 2\n</pre></div>"] :=
  (codeHtml_highlight_parse_iff ⟨"python", "#", ["py"]⟩ (by decide) _
    "x = 1 # DIVIDER\n#DIVIDER\ny < 2" 0).mpr (by decide)

/-- No line is identical to the divider line, but the one in the first line ends
the first section early and the code of the second section is lost. -/
theorem codeHtml_highlight_trailing_divider :
    (∀ line ∈ Text.lines "x = 1 #DIVIDER\n# doc\ny = 2\n",
      line ≠ Language.dividerLine ⟨"python", "#", ["py"]⟩) ∧
    (Section.parse ⟨"python", "#", ["py"]⟩
        "x = 1 #DIVIDER\n# doc\ny = 2\n" 0).map Section.code =
      ["x = 1 #DIVIDER\n", "y = 2\n"] ∧
    (highlight ⟨"python", "#", ["py"]⟩ plainHighlighter (fun prose => prose)
          (Section.parse ⟨"python", "#", ["py"]⟩
            "x = 1 #DIVIDER\n# doc\ny = 2\n" 0)).map
        (fun answer => answer.1.map Section.codeHtml) =
      .ok ["<div class=\"highlight\"><pre>x = 1 </pre></div>",
        "<div class=\"highlight\"><pre></pre></div>"] := by
  refine ⟨by decide, by decide, ?_⟩
  rw [codeHtml_highlight_plain]
  decide

end Body

end Marginalia
