import Marginalia.Proofs.Header.Verdict
import Marginalia.Proofs.Outcome
import Marginalia.Proofs.Section.Decomposition

/-!
# The header in the body

Every header line is a comment line, so a body that is read from the first line
on, header included, has the header as prose of its first section.  Skipping the
header takes this prose away and changes nothing else.
-/

namespace Marginalia

variable {language : Language}

theorem Language.isComment_of_headerLine? {line : Text}
    (headed : (language.headerLine? line).isSome = true) :
    language.isComment line = true := by
  rw [headerLine?, List.findSome?_isSome_iff] at headed
  obtain ⟨unindented, member, read⟩ := headed
  rw [isComment, commentText?, List.findSome?_isSome_iff]
  refine ⟨unindented, member, ?_⟩
  -- Both matchers first take the symbol off.
  cases found : Text.after? language.symbol unindented with
  | none =>
      rw [found] at read
      cases read
  | some rest =>
      rfl

/-- The header that is read from a file counts the header lines at its top. -/
theorem Header.exists_lines_of_scan {path : Path} {contents : Text}
    {header : Header} (scanned : scan language path contents = .ok header) :
    ∃ headed body, contents.lines = headed ++ body ∧
      header.lineCount = headed.length ∧
      (∀ line ∈ headed, (language.headerLine? line).isSome = true) ∧
      ∀ line ∈ body.head?, language.headerLine? line = none := by
  obtain ⟨body, linesEq, stops⟩ := exists_body language contents.lines
  refine ⟨block language contents.lines, body, linesEq, ?_,
    fun line => isSome_of_mem_block, stops⟩
  rcases scanLines_block path contents.lines (holds_nil language) with
    ⟨result, read, holds⟩ | ⟨value, fault, rejected, _⟩
  · cases scanned.symm.trans read
    exact holds.lineCount
  · cases scanned.symm.trans rejected

namespace Section

def withProse (before : Text) (part : Section) : Section :=
  { part with docs := before ++ part.docs }

theorem ofLinesFrom_withProse (before : Text) (current : Section)
    (hasCode : Bool) (lines : List Text) :
    ofLinesFrom language (withProse before current) hasCode lines =
      (ofLinesFrom language current hasCode lines).modifyHead
        (withProse before) := by
  induction lines generalizing current hasCode with
  | nil =>
      rfl
  | cons line lines inductionHypothesis =>
      have commentAdded :
          (withProse before current).addComment language line =
            withProse before (current.addComment language line) := by
        simp [withProse, addComment]
      have codeAdded :
          (withProse before current).addCode line =
            withProse before (current.addCode line) := rfl
      by_cases comment : language.isComment line = true
      · cases hasCode with
        | true =>
            simp [ofLinesFrom, comment]
        | false =>
            simp [ofLinesFrom, comment, commentAdded, inductionHypothesis]
      · simp [ofLinesFrom, comment, codeAdded, inductionHypothesis]

/-- Comment lines in front of others are prose of the first section. -/
theorem ofLinesFrom_comments_append {comments : List Text}
    (areComments : ∀ line ∈ comments, language.isComment line = true)
    (rest : List Text) :
    ofLinesFrom language {} false (comments ++ rest) =
      (ofLinesFrom language {} false rest).modifyHead
        (withProse (prose language comments)) := by
  rw [ofLinesFrom_comments {} areComments, ← ofLinesFrom_withProse]
  simp [withProse]

/-- Skipping the header of a file takes the header lines out of the prose of the
first section and changes nothing else. -/
theorem parse_skips_header (language : Language) (path : Path)
    (contents : Text) (header : Header)
    (scanned : Header.scan language path contents = .ok header) :
    header.lineCount ≤ contents.lines.length ∧
    (∀ line ∈ contents.lines.take header.lineCount,
      (language.headerLine? line).isSome = true ∧
        language.isComment line = true) ∧
    (∀ line, contents.lines[header.lineCount]? = some line →
      language.headerLine? line = none) ∧
    ∃ first rest,
      parse language contents header.lineCount = first :: rest ∧
      parse language contents 0 =
        { first with
          docs :=
            prose language (contents.lines.take header.lineCount) ++
              first.docs } :: rest := by
  obtain ⟨headed, body, linesEq, lineCount, areHeader, stops⟩ :=
    Header.exists_lines_of_scan scanned
  have areComments (line : Text) (member : line ∈ headed) :
      language.isComment line = true :=
    Language.isComment_of_headerLine? (areHeader line member)
  obtain ⟨blocks, decomposes⟩ := exists_decomposes language body
  obtain ⟨block, others, rfl⟩ :=
    List.exists_cons_of_ne_nil decomposes.nonempty
  have skipped := decomposes.ofLinesFrom_eq
  rw [parse, parse, linesEq, lineCount, List.take_left, List.drop_left,
    List.drop_zero]
  refine ⟨by simp, fun line member => ?_, fun line found => ?_,
    block.toSection, others.map Block.toSection, skipped, ?_⟩
  · exact ⟨areHeader line member, areComments line member⟩
  · apply stops line
    rw [List.getElem?_append_right (Nat.le_refl _), Nat.sub_self] at found
    rwa [Option.mem_def, List.head?_eq_getElem?]
  · rw [ofLinesFrom_comments_append areComments, skipped]
    rfl

/-- Two header lines, one of them with an unknown key; the line after the code
looks like a header line and stays prose. -/
theorem parse_skips_header_python :
    Header.scan ⟨"python", "#", ["py"]⟩ "a.py"
        "# Commit: a1\n\t#  Key:\n# prose\nx = 1\n# Commit: b2\n" =
      .ok { commit? := some "a1".toList, lineCount := 2 } ∧
    parse ⟨"python", "#", ["py"]⟩
        "# Commit: a1\n\t#  Key:\n# prose\nx = 1\n# Commit: b2\n" 2 =
      [{ docs := "prose\n", code := "x = 1\n" }, { docs := "Commit: b2\n" }] ∧
    parse ⟨"python", "#", ["py"]⟩
        "# Commit: a1\n\t#  Key:\n# prose\nx = 1\n# Commit: b2\n" 0 =
      [{ docs := "Commit: a1\n Key:\nprose\n", code := "x = 1\n" },
        { docs := "Commit: b2\n" }] := by
  have scanned :
      Header.scan ⟨"python", "#", ["py"]⟩ "a.py"
          "# Commit: a1\n\t#  Key:\n# prose\nx = 1\n# Commit: b2\n" =
        .ok { commit? := some "a1".toList, lineCount := 2 } :=
    eq_ok_of_toOption (by decide +kernel)
  have skipped :
      parse ⟨"python", "#", ["py"]⟩
          "# Commit: a1\n\t#  Key:\n# prose\nx = 1\n# Commit: b2\n" 2 =
        [{ docs := "prose\n", code := "x = 1\n" }, { docs := "Commit: b2\n" }] := by
    decide
  obtain ⟨_, _, _, first, rest, skippedEq, whole⟩ :=
    parse_skips_header _ _ _ _ scanned
  cases skippedEq.symm.trans skipped
  exact ⟨scanned, skipped, whole⟩

end Section

end Marginalia
