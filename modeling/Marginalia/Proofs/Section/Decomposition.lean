import Marginalia.Proofs.Text.Run
import Marginalia.Section

/-!
# Blocks of lines

The lines of a body fall into blocks, each a run of comment lines and the run of
code lines after it.  A block other than the first starts with a comment line,
and a block other than the last ends with a code line, so every cut between two
blocks is a comment line after a code line.  There is one way only to cut the
lines so, and the sections of the body are these blocks.
-/

namespace Marginalia
namespace Section

/-- Comment lines, and the code lines after them. -/
@[ext]
structure Block (language : Language) where
  comments : List Text
  code : List Text
  areComments : ∀ line ∈ comments, language.isComment line = true
  areCode : ∀ line ∈ code, language.isComment line = false

def prose (language : Language) (comments : List Text) : Text :=
  comments.flatMap fun line => language.stripComment line ++ ['\n']

def codeText (code : List Text) : Text :=
  code.flatMap fun line => line ++ ['\n']

variable {language : Language}

namespace Block

def lines (block : Block language) : List Text :=
  block.comments ++ block.code

/-- The section of a block, not yet rendered. -/
def toSection (block : Block language) : Section where
  docs := prose language block.comments
  code := codeText block.code
  docsHtml := []
  codeHtml := []

end Block

/-- Blocks that put lines together and are cut where a comment line follows a
code line. -/
structure Decomposes (lines : List Text) (blocks : List (Block language)) :
    Prop where
  nonempty : blocks ≠ []
  joined : blocks.flatMap Block.lines = lines
  commentFirst : ∀ block ∈ blocks.tail, block.comments ≠ []
  codeLast : ∀ block ∈ blocks.dropLast, block.code ≠ []

/-! ## The blocks of some lines -/

theorem decomposes_singleton_iff {lines : List Text} {block : Block language} :
    Decomposes lines [block] ↔ lines = block.lines := by
  constructor
  · intro decomposes
    simpa using decomposes.joined.symm
  · rintro rfl
    exact ⟨by simp, by simp, by simp, by simp⟩

theorem decomposes_cons_cons_iff {lines : List Text}
    {first second : Block language} {blocks : List (Block language)} :
    Decomposes lines (first :: second :: blocks) ↔
      first.code ≠ [] ∧ second.comments ≠ [] ∧
        ∃ rest, lines = first.lines ++ rest ∧
          Decomposes rest (second :: blocks) := by
  constructor
  · rintro ⟨_, joined, commentFirst, codeLast⟩
    simp only [List.tail_cons, List.dropLast_cons_cons, List.forall_mem_cons]
      at commentFirst codeLast
    refine ⟨codeLast.1, commentFirst.1, (second :: blocks).flatMap Block.lines,
      by simpa using joined.symm, by simp, rfl, commentFirst.2, codeLast.2⟩
  · rintro ⟨code, comments, rest, rfl, _, joined, commentFirst, codeLast⟩
    refine ⟨by simp, by simp [← joined], ?_, ?_⟩
    · simpa [comments] using commentFirst
    · simpa [code] using codeLast

/-- A line in front of the first block, as its first line. -/
theorem Decomposes.extend {line : Text} {lines : List Text}
    {first extended : Block language} {blocks : List (Block language)}
    (decomposes : Decomposes lines (first :: blocks))
    (extendedLines : extended.lines = line :: first.lines)
    (keepsCode : first.code ≠ [] → extended.code ≠ []) :
    Decomposes (line :: lines) (extended :: blocks) := by
  cases blocks with
  | nil =>
      rw [decomposes_singleton_iff] at decomposes ⊢
      rw [extendedLines, decomposes]
  | cons second blocks =>
      rw [decomposes_cons_cons_iff] at decomposes ⊢
      obtain ⟨code, comments, rest, linesEq, later⟩ := decomposes
      exact ⟨keepsCode code, comments, rest, by simp [extendedLines, linesEq], later⟩

theorem exists_decomposes (language : Language) (lines : List Text) :
    ∃ blocks : List (Block language), Decomposes lines blocks := by
  induction lines with
  | nil =>
      exact ⟨[⟨[], [], by simp, by simp⟩], decomposes_singleton_iff.mpr rfl⟩
  | cons line lines inductionHypothesis =>
      obtain ⟨blocks, decomposes⟩ := inductionHypothesis
      obtain ⟨first, others, rfl⟩ :=
        List.exists_cons_of_ne_nil decomposes.nonempty
      cases comment : language.isComment line with
      | true =>
          have extendedComments :
              ∀ other ∈ line :: first.comments, language.isComment other = true := by
            simpa [comment] using first.areComments
          exact ⟨⟨line :: first.comments, first.code, extendedComments,
            first.areCode⟩ :: others, decomposes.extend rfl id⟩
      | false =>
          by_cases bare : first.comments = []
          · have extendedCode :
                ∀ other ∈ line :: first.code, language.isComment other = false := by
              simpa [comment] using first.areCode
            refine ⟨⟨[], line :: first.code, by simp, extendedCode⟩ :: others,
              decomposes.extend ?_ ?_⟩
            · simp [Block.lines, bare]
            · exact fun _ => List.cons_ne_nil line first.code
          · refine ⟨⟨[], [line], by simp, by simpa using comment⟩ :: first :: others, ?_⟩
            rw [decomposes_cons_cons_iff]
            exact ⟨List.cons_ne_nil line [], bare, lines, rfl, decomposes⟩

theorem Decomposes.exists_comment {lines : List Text} {block : Block language}
    {blocks : List (Block language)}
    (decomposes : Decomposes lines (block :: blocks))
    (nonempty : block.comments ≠ []) :
    ∃ line rest, lines = line :: rest ∧ language.isComment line = true := by
  obtain ⟨line, comments, commentsEq⟩ := List.exists_cons_of_ne_nil nonempty
  refine ⟨line, comments ++ block.code ++ blocks.flatMap Block.lines, ?_, ?_⟩
  · rw [← decomposes.joined]
    simp [Block.lines, commentsEq]
  · exact block.areComments line (by simp [commentsEq])

/-- The first block is the longest run of comment lines and the longest run of
code lines after it. -/
theorem Decomposes.cut {lines : List Text} {block : Block language}
    {blocks : List (Block language)}
    (decomposes : Decomposes lines (block :: blocks)) :
    ∃ rest, lines = block.comments ++ (block.code ++ rest) ∧
      StopsRun language.isComment (block.code ++ rest) ∧
      StopsRun (fun line => !language.isComment line) rest ∧
      (blocks = [] ∧ rest = [] ∨ rest ≠ [] ∧ Decomposes rest blocks) := by
  have codeStops (rest : List Text) (nonempty : block.code ≠ []) :
      StopsRun language.isComment (block.code ++ rest) :=
    (stopsRun_of_outside block.areCode).append nonempty rest
  cases blocks with
  | nil =>
      rw [decomposes_singleton_iff] at decomposes
      refine ⟨[], by rw [List.append_nil, decomposes, Block.lines], ?_,
        stopsRun_nil, Or.inl ⟨rfl, rfl⟩⟩
      by_cases empty : block.code = []
      · rw [empty]
        exact stopsRun_nil
      · exact codeStops [] empty
  | cons second blocks =>
      rw [decomposes_cons_cons_iff] at decomposes
      obtain ⟨code, comments, rest, linesEq, later⟩ := decomposes
      obtain ⟨line, others, restEq, comment⟩ := later.exists_comment comments
      refine ⟨rest, by rw [linesEq, Block.lines, List.append_assoc],
        codeStops rest code, ?_, Or.inr ⟨by simp [restEq], later⟩⟩
      rw [restEq, stopsRun_cons_iff, comment, Bool.not_true]

theorem Decomposes.unique {lines : List Text}
    {blocks blocks' : List (Block language)}
    (decomposes : Decomposes lines blocks)
    (decomposes' : Decomposes lines blocks') : blocks = blocks' := by
  -- The induction is on the blocks: the first ones are equal, and the rest of
  -- the lines after them is the same.
  induction blocks generalizing lines blocks' with
  | nil =>
      exact absurd rfl decomposes.nonempty
  | cons block blocks inductionHypothesis =>
      obtain ⟨block', others, rfl⟩ :=
        List.exists_cons_of_ne_nil decomposes'.nonempty
      obtain ⟨rest, linesEq, afterComments, afterCode, later⟩ := decomposes.cut
      obtain ⟨rest', linesEq', afterComments', afterCode', later'⟩ :=
        decomposes'.cut
      have commentsEq :=
        run_append_inj block.areComments block'.areComments afterComments
          afterComments' (linesEq.symm.trans linesEq')
      have codeEq :=
        run_append_inj (by simpa using block.areCode) (by simpa using block'.areCode)
          afterCode afterCode' commentsEq.2
      have blockEq : block = block' := Block.ext commentsEq.1 codeEq.1
      have restEq := codeEq.2
      subst blockEq restEq
      rcases later with ⟨rfl, empty⟩ | ⟨nonempty, later⟩
      · rcases later' with ⟨rfl, _⟩ | ⟨nonempty, _⟩
        · rfl
        · exact absurd empty nonempty
      · rcases later' with ⟨_, empty⟩ | ⟨_, later'⟩
        · exact absurd empty nonempty
        · rw [inductionHypothesis later later']

/-! ## Reading blocks -/

theorem ofLinesFrom_comments (current : Section) {comments : List Text}
    (areComments : ∀ line ∈ comments, language.isComment line = true)
    (rest : List Text) :
    ofLinesFrom language current false (comments ++ rest) =
      ofLinesFrom language
        { current with docs := current.docs ++ prose language comments }
        false rest := by
  induction comments generalizing current with
  | nil =>
      simp [prose]
  | cons line comments inductionHypothesis =>
      rw [List.forall_mem_cons] at areComments
      rw [List.cons_append, ofLinesFrom, if_pos areComments.1,
        if_neg Bool.false_ne_true, inductionHypothesis _ areComments.2]
      simp [addComment, prose]

theorem ofLinesFrom_code (current : Section) (hasCode : Bool)
    {code : List Text}
    (areCode : ∀ line ∈ code, language.isComment line = false)
    (rest : List Text) :
    ofLinesFrom language current hasCode (code ++ rest) =
      ofLinesFrom language
        { current with code := current.code ++ codeText code }
        (hasCode || !code.isEmpty) rest := by
  induction code generalizing current hasCode with
  | nil =>
      simp [codeText]
  | cons line code inductionHypothesis =>
      rw [List.forall_mem_cons] at areCode
      rw [List.cons_append, ofLinesFrom, if_neg (by simp [areCode.1]),
        inductionHypothesis _ _ areCode.2]
      simp [addCode, codeText]

/-- A comment line after code leaves the section behind. -/
theorem ofLinesFrom_next (current : Section) {line : Text}
    (comment : language.isComment line = true) (rest : List Text) :
    ofLinesFrom language current true (line :: rest) =
      current :: ofLinesFrom language {} false (line :: rest) := by
  simp [ofLinesFrom, comment]

theorem ofLinesFrom_block (block : Block language) (rest : List Text) :
    ofLinesFrom language {} false (block.lines ++ rest) =
      ofLinesFrom language block.toSection (!block.code.isEmpty) rest := by
  rw [Block.lines, List.append_assoc, ofLinesFrom_comments {} block.areComments,
    ofLinesFrom_code _ _ block.areCode]
  simp [Block.toSection]

/-- The sections of some lines are their blocks. -/
theorem Decomposes.ofLinesFrom_eq {lines : List Text}
    {blocks : List (Block language)} (decomposes : Decomposes lines blocks) :
    ofLinesFrom language {} false lines = blocks.map Block.toSection := by
  induction blocks generalizing lines with
  | nil =>
      exact absurd rfl decomposes.nonempty
  | cons block blocks inductionHypothesis =>
      cases blocks with
      | nil =>
          rw [decomposes_singleton_iff.mp decomposes, ← List.append_nil block.lines,
            ofLinesFrom_block]
          rfl
      | cons second blocks =>
          obtain ⟨code, comments, rest, linesEq, later⟩ :=
            decomposes_cons_cons_iff.mp decomposes
          obtain ⟨line, others, restEq, comment⟩ := later.exists_comment comments
          have afterCode : (!block.code.isEmpty) = true := by
            simp [code]
          rw [linesEq, ofLinesFrom_block, afterCode, restEq,
            ofLinesFrom_next _ comment, ← restEq, inductionHypothesis later,
            ← List.map_cons]

/-- Reading the sections of a body finds its blocks, and there is no other way to
cut the body into blocks. -/
theorem parse_finds_blocks (language : Language) (contents : Text)
    (firstLine : Nat) :
    ∃ blocks : List (Block language),
      Decomposes (contents.lines.drop firstLine) blocks ∧
      (∀ others : List (Block language),
        Decomposes (contents.lines.drop firstLine) others → others = blocks) ∧
      parse language contents firstLine = blocks.map Block.toSection := by
  obtain ⟨blocks, decomposes⟩ :=
    exists_decomposes language (contents.lines.drop firstLine)
  exact ⟨blocks, decomposes, fun others other => other.unique decomposes,
    decomposes.ofLinesFrom_eq⟩

end Section
end Marginalia
