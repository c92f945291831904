import Marginalia.Body
import Marginalia.Proofs.Divider.Interleaving
import Marginalia.Proofs.Highlight.Span

/-!
# Highlighting sections together

Highlighting the joined code of all sections and splitting the result is the
same as highlighting every section alone, as long as no span reaches across the
end of a section and every divider line is plain or one comment token.

The markup of the joined code is the interleaving of the sections' own markup,
and no section's markup holds a divider that its code does not hold.
-/

namespace Marginalia
namespace Body

open Highlight Divider

/-- A section with spans that end in its code. -/
structure Block where
  part : Section
  spans : List Span
  within : ∀ span ∈ spans, span.stop ≤ Text.byteLength part.code
  known : ∀ span ∈ spans, span.className ∈ classNames

namespace Block

def markup (block : Block) : Text :=
  markupFrom 0 block.part.code block.spans

/-- The section of a block, highlighted alone. -/
def highlighted (markdown : MarkdownRenderer) (block : Block) : Section :=
  { block.part with
    docsHtml := markdown block.part.docs
    codeHtml := renderSpans block.part.code block.spans }

theorem withHtml_markup (markdown : MarkdownRenderer) (block : Block) :
    withHtml markdown block.part block.markup = block.highlighted markdown :=
  rfl

theorem isMarkup (block : Block) : IsMarkup block.markup :=
  isMarkup_markupFrom 0 block.part.code block.known

theorem not_infix_markup {language : Language} {block : Block}
    (clean : ¬ language.renderedDivider <:+: Html.escape block.part.code) :
    ¬ language.renderedDivider <:+: block.markup := by
  intro standing
  exact clean <|
    infix_markupFrom (fun c => language.not_mem_renderedDivider)
      language.capital_mem_renderedDivider block.known standing

end Block

/-! ## The spans of the joined code -/

/-- The span of the divider line after the first `offset` bytes, if it has
one. -/
def dividerSpans (language : Language) (offset : Nat)
    (name? : Option CommentClass) : List Span :=
  name?.toList.map fun name =>
    ⟨offset + 1, offset + 1 + Text.byteLength language.dividerLine, name⟩

/-- The spans of blocks in their joined code, the first of them after `offset`
bytes, and the spans of the divider lines between them. -/
def joinedSpans (language : Language) (offset : Nat) :
    List (Block × Option CommentClass) → Block → List Span
  | [], last => last.spans.map (Span.shift offset)
  | (block, name?) :: leading, last =>
      let stop := offset + Text.byteLength block.part.code
      block.spans.map (Span.shift offset) ++
        (dividerSpans language stop name? ++
          joinedSpans language
            (stop + Text.byteLength language.dividerText) leading last)

/-- The form in which a divider line with or without a span is rendered. -/
def formOf : Option CommentClass → Form
  | none => .bare
  | some name => .token name

def joinedCode (language : Language)
    (leading : List (Block × Option CommentClass)) (last : Block) : Text :=
  joinCode language
    ((leading.map Prod.fst ++ [last]).map fun block => block.part.code)

theorem joinedCode_cons (language : Language) (block : Block)
    (name? : Option CommentClass)
    (leading : List (Block × Option CommentClass)) (last : Block) :
    joinedCode language ((block, name?) :: leading) last =
      block.part.code ++
        (language.dividerText ++ joinedCode language leading last) := by
  cases leading <;>
    simp [joinedCode, joinCode, Text.joined, List.intercalate]

theorem le_start_of_mem_joinedSpans {language : Language} {offset : Nat}
    {leading : List (Block × Option CommentClass)} {last : Block} {span : Span}
    (member : span ∈ joinedSpans language offset leading last) :
    offset ≤ span.start := by
  induction leading generalizing offset with
  | nil =>
      obtain ⟨own, _, rfl⟩ := List.mem_map.mp member
      exact Nat.le_add_left offset own.start
  | cons pair leading inductionHypothesis =>
      rcases List.mem_append.mp member with inBlock | later
      · obtain ⟨own, _, rfl⟩ := List.mem_map.mp inBlock
        exact Nat.le_add_left offset own.start
      · rcases List.mem_append.mp later with inDivider | inRest
        · obtain ⟨name, _, rfl⟩ := List.mem_map.mp inDivider
          show offset ≤ offset + _ + 1
          omega
        · have := inductionHypothesis inRest
          omega

/-! ## The markup of the joined code -/

theorem markupFrom_joined (offset : Nat) (block : Block) :
    markupFrom offset block.part.code (block.spans.map (Span.shift offset)) =
      block.markup := by
  rw [Block.markup, ← markupFrom_shift 0 offset, Nat.zero_add]

/-- A span over all of some code makes one token of it. -/
theorem markupFrom_whole (position : Nat) (code name : Text) :
    markupFrom position code
        [⟨position, position + Text.byteLength code, name⟩] =
      openingTag name ++ Html.escape code ++ tokenEnd := by
  have cutEnd :
      Text.cutAtByte? code (Text.byteLength code) = some (code, []) := by
    have atEnd := Text.cutAtByte?_append_add code [] 0
    simpa [Text.cutAtByte?] using atEnd
  have cut :
      Span.cut? ⟨position, position + Text.byteLength code, name⟩ position code =
        some ([], code, []) := by
    simp [Span.cut?, Text.cutAtByte?, cutEnd]
  have tokenEq :
      Segment.render ⟨code, some name⟩ =
        openingTag name ++ Html.escape code ++ tokenEnd := rfl
  have emptyEq : Html.escape [] = [] := rfl
  rw [markupFrom_of_cut cut, markupFrom_nil, emptyEq, tokenEq, List.nil_append,
    List.append_nil]

theorem markupFrom_dividerText (language : Language) (offset : Nat)
    (name? : Option CommentClass) :
    markupFrom offset language.dividerText
        (dividerSpans language offset name?) =
      (formOf name?).render language.renderedDivider := by
  have escapeEq :
      Html.escape language.dividerLine = language.renderedDivider :=
    language.renderedDivider_eq.symm
  cases name? with
  | none =>
      show markupFrom offset language.dividerText [] = _
      rw [markupFrom_nil, Language.dividerText, Html.escape_append,
        Html.escape_append, escapeEq]
      rfl
  | some name =>
      let span : Span :=
        ⟨offset + 1, offset + 1 + Text.byteLength language.dividerLine, name⟩
      have firstLineFeed :
          markupFrom offset (['\n'] ++ (language.dividerLine ++ ['\n'])) [span] =
            ['\n'] ++
              markupFrom (offset + 1) (language.dividerLine ++ ['\n']) [span] := by
        refine markupFrom_append_of_ge ?_ _
        simp [span]
      have lineApart :
          markupFrom (offset + 1) (language.dividerLine ++ ['\n'])
              ([span] ++ []) =
            markupFrom (offset + 1) language.dividerLine [span] ++
              markupFrom (offset + 1 + Text.byteLength language.dividerLine)
                ['\n'] [] :=
        markupFrom_append (by simp [span]) (by simp) ['\n']
      have lineEq :
          markupFrom (offset + 1) language.dividerLine [span] =
            openingTag name ++ language.renderedDivider ++ tokenEnd := by
        rw [markupFrom_whole, escapeEq]
      have textEq :
          language.dividerText = ['\n'] ++ (language.dividerLine ++ ['\n']) := by
        simp [Language.dividerText]
      have spansEq : dividerSpans language offset (some name) = [span] := rfl
      rw [List.append_nil, markupFrom_nil, lineEq] at lineApart
      rw [spansEq, textEq, firstLineFeed, lineApart, List.append_assoc]
      rfl

/-- The markup of the joined code of blocks is the interleaving of the markup
of each block alone. -/
theorem markupFrom_joinedCode (language : Language) (offset : Nat)
    (leading : List (Block × Option CommentClass)) (last : Block) :
    markupFrom offset (joinedCode language leading last)
        (joinedSpans language offset leading last) =
      interleaved language.renderedDivider
        (leading.map fun (block, name?) => (block.markup, formOf name?))
        last.markup := by
  induction leading generalizing offset with
  | nil =>
      have codeEq : joinedCode language [] last = last.part.code := by
        simp [joinedCode, joinCode, Text.joined, List.intercalate]
      rw [codeEq, joinedSpans, markupFrom_joined]
      rfl
  | cons pair leading inductionHypothesis =>
      obtain ⟨block, name?⟩ := pair
      let stop := offset + Text.byteLength block.part.code
      let next := stop + Text.byteLength language.dividerText
      have blockWithin :
          ∀ span ∈ block.spans.map (Span.shift offset), span.stop ≤ stop := by
        intro span member
        obtain ⟨own, ownMember, rfl⟩ := List.mem_map.mp member
        have ownWithin := block.within own ownMember
        show own.stop + offset ≤ offset + _
        omega
      have dividerWithin :
          ∀ span ∈ dividerSpans language stop name?,
            stop ≤ span.start ∧ span.stop ≤ next := by
        intro span member
        obtain ⟨name, _, rfl⟩ := List.mem_map.mp member
        simp only [next, Language.dividerText, Text.byteLength_append,
          Text.byteLength_lineFeed]
        omega
      have laterBeyond :
          ∀ span ∈ joinedSpans language next leading last, next ≤ span.start :=
        fun span member => le_start_of_mem_joinedSpans member
      have dividerApart :
          markupFrom stop
              (language.dividerText ++ joinedCode language leading last)
              (dividerSpans language stop name? ++
                joinedSpans language next leading last) =
            markupFrom stop language.dividerText
                (dividerSpans language stop name?) ++
              markupFrom next (joinedCode language leading last)
                (joinedSpans language next leading last) :=
        markupFrom_append (fun span member => (dividerWithin span member).2)
          laterBeyond _
      have blockApart :
          markupFrom offset
              (block.part.code ++
                (language.dividerText ++ joinedCode language leading last))
              (block.spans.map (Span.shift offset) ++
                (dividerSpans language stop name? ++
                  joinedSpans language next leading last)) =
            markupFrom offset block.part.code
                (block.spans.map (Span.shift offset)) ++
              markupFrom stop
                (language.dividerText ++ joinedCode language leading last)
                (dividerSpans language stop name? ++
                  joinedSpans language next leading last) := by
        refine markupFrom_append blockWithin ?_ _
        intro span member
        rcases List.mem_append.mp member with inDivider | inRest
        · exact (dividerWithin span inDivider).1
        · exact Nat.le_trans (Nat.le_add_right _ _) (laterBeyond span inRest)
      rw [joinedCode_cons, joinedSpans, blockApart, dividerApart,
        markupFrom_joined, markupFrom_dividerText, inductionHypothesis]
      simp [interleaved]

/-! ## The sections -/

theorem highlight_eq {language : Language} {highlighter : Highlighter}
    (markdown : MarkdownRenderer) {sections : List Section} {html : Text}
    (answers : highlighter language
      (joinCode language (sections.map Section.code)) = .ok html) :
    highlight language highlighter markdown sections =
      .ok (List.zipWith (withHtml markdown) sections
          (split language.renderedDivider sections.length (unwrap html)).1,
        (split language.renderedDivider sections.length (unwrap html)).2) := by
  rw [highlight, answers]
  rfl

theorem split_blocks {language : Language}
    {leading : List (Block × Option CommentClass)} {last : Block}
    (oneLine : '\n' ∉ language.symbol)
    (clean : ∀ block ∈ leading.map Prod.fst ++ [last],
      ¬ language.renderedDivider <:+: Html.escape block.part.code) :
    split language.renderedDivider (leading.map Prod.fst ++ [last]).length
        (interleaved language.renderedDivider
          (leading.map fun (block, name?) => (block.markup, formOf name?))
          last.markup) =
      ((leading.map Prod.fst ++ [last]).map Block.markup, leading.length) := by
  have fragmentsEq :
      (leading.map fun (block, name?) => (block.markup, formOf name?)).map
          Prod.fst ++ [last.markup] =
        (leading.map Prod.fst ++ [last]).map Block.markup := by
    simp [Function.comp_def]
  have fragmentsClean :
      ∀ fragment ∈
          (leading.map fun (block, name?) => (block.markup, formOf name?)).map
            Prod.fst ++ [last.markup],
        ¬ language.renderedDivider <:+: fragment := by
    rw [fragmentsEq]
    intro fragment member
    obtain ⟨block, blockMember, rfl⟩ := List.mem_map.mp member
    exact Block.not_infix_markup (clean block blockMember)
  have outside :
      ∀ pair ∈ leading.map fun (block, name?) => (block.markup, formOf name?),
        pair.2 = .bare → insideToken pair.1 = false := by
    intro pair member _
    obtain ⟨⟨block, name?⟩, _, rfl⟩ := List.mem_map.mp member
    simp [insideToken, block.isMarkup.balanced]
  have cutAll :=
    cut_interleaved oneLine fragmentsClean outside
      (Nat.lt_succ_self _)
  rw [List.length_map, Nat.sub_self, List.replicate_zero, fragmentsEq]
    at cutAll
  rw [split, List.length_append, List.length_map, List.length_singleton, cutAll]
  simp

theorem zipWith_withHtml_markup (markdown : MarkdownRenderer)
    (blocks : List Block) :
    List.zipWith (withHtml markdown) (blocks.map Block.part)
        (blocks.map Block.markup) =
      blocks.map (Block.highlighted markdown) := by
  simp [List.zipWith_map, Block.withHtml_markup]

/-- Highlighting the joined code of all sections gives every section the HTML
of its own code with its own spans, and finds every divider.  The spans of a
section may be in any order, reversed or inside a character. -/
theorem highlight_joined (language : Language) (highlighter : Highlighter)
    (markdown : MarkdownRenderer)
    (leading : List (Block × Option CommentClass)) (last : Block)
    (oneLine : '\n' ∉ language.symbol)
    (clean : ∀ block ∈ leading.map Prod.fst ++ [last],
      ¬ language.renderedDivider <:+: Html.escape block.part.code)
    (answers : highlighter language (joinedCode language leading last) =
      .ok (renderSpans (joinedCode language leading last)
        (joinedSpans language 0 leading last))) :
    highlight language highlighter markdown
        ((leading.map Prod.fst ++ [last]).map Block.part) =
      .ok ((leading.map Prod.fst ++ [last]).map (Block.highlighted markdown),
        leading.length) := by
  let blocks := leading.map Prod.fst ++ [last]
  have codeEq :
      joinCode language ((blocks.map Block.part).map Section.code) =
        joinedCode language leading last := by
    rw [List.map_map]
    rfl
  have htmlEq :
      unwrap (renderSpans (joinedCode language leading last)
          (joinedSpans language 0 leading last)) =
        interleaved language.renderedDivider
          (leading.map fun (block, name?) => (block.markup, formOf name?))
          last.markup := by
    rw [renderSpans_eq, unwrap_wrap, markupFrom_joinedCode]
  rw [highlight_eq markdown (by rw [codeEq]; exact answers), htmlEq, List.length_map,
    split_blocks oneLine clean, zipWith_withHtml_markup]

/-- Two sections, the first with a span inside a character and a reversed one,
and a divider line that is a comment token. -/
theorem highlight_joined_python :
    highlight ⟨"python", "#", ["py"]⟩
        (fun _ code => .ok (renderSpans code
          [⟨7, 8, "k"⟩, ⟨4, 9, "s"⟩, ⟨3, 1, "k"⟩, ⟨11, 19, "c1"⟩,
            ⟨21, 22, "nv"⟩]))
        (fun prose => "<p>" ++ prose)
        [{ docs := "One", code := "a = '<é'\n" }, { code := "\nb" }] =
      .ok
        ([{ docs := "One"
            code := "a = '<é'\n"
            docsHtml := "<p>One"
            codeHtml := "<div class=\"highlight\"><pre>a = <span class=\"s\">" ++
              "&#39;&lt;é&#39;</span>\n</pre></div>" },
          { code := "\nb"
            docsHtml := "<p>"
            codeHtml := "<div class=\"highlight\"><pre>\n<span class=\"nv\">" ++
              "b</span></pre></div>" }], 1) :=
  highlight_joined ⟨"python", "#", ["py"]⟩ _ _
    [(⟨{ docs := "One", code := "a = '<é'\n" }, [⟨7, 8, "k"⟩, ⟨4, 9, "s"⟩, ⟨3, 1, "k"⟩],
      by decide, by decide⟩, some ⟨"c1", by decide⟩)]
    ⟨{ code := "\nb" }, [⟨1, 2, "nv"⟩], by decide, by decide⟩
    (by decide) (by decide) rfl

end Body
end Marginalia
