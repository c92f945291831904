import Marginalia.Language.Basic
import Marginalia.Proofs.Text.Piece
import Marginalia.Proofs.Text.Trim

/-!
# The grammar of header lines

A header line is an indent, the comment symbol, a gap, a key, a colon and the
rest of the line.  The reader tries the longest indent first and takes the
longest gap and the longest key.  None of these choices can go wrong: the symbol
does not start with white space, a key neither starts with white space nor has a
colon in it, so a line can be cut in one way only.
-/

namespace Marginalia

/-! ## Words -/

theorem isWhiteSpace_eq_false_of_isWordCharacter {c : Char}
    (word : isWordCharacter c = true) : isWhiteSpace c = false := by
  refine CodePointRanges.contains_eq_false_of_apart ?_ word
  decide +kernel

namespace Text

/-- A non-empty text of word characters. -/
def IsWord (text : Text) : Prop :=
  text ≠ [] ∧ ∀ c ∈ text, isWordCharacter c = true

theorem IsWord.stopsRun_append {text : Text} (word : text.IsWord)
    (rest : Text) : StopsRun isWhiteSpace (text ++ rest) := by
  have visible : StopsRun isWhiteSpace text :=
    stopsRun_of_outside fun c member =>
      isWhiteSpace_eq_false_of_isWordCharacter (word.2 c member)
  exact visible.append word.1 rest

end Text

namespace Language

open Text

/-! ## Keys and values -/

theorem stopsRun_colon (rest : Text) :
    StopsRun isWordCharacter (':' :: rest) := by
  rw [stopsRun_cons_iff]
  decide +kernel

theorem exists_rest_of_entry {text key value : Text}
    (read : headerEntry? text = some (key, value)) :
    key.IsWord ∧ ∃ rest, text = key ++ ':' :: rest ∧ value = trim rest := by
  have whole :=
    List.takeWhile_append_dropWhile (p := isWordCharacter) (l := text)
  unfold headerEntry? at read
  dsimp only at read
  split at read
  · next first others rest keyEq restEq =>
      split at read
      · cases read
      · cases read
        rw [restEq] at whole
        refine ⟨⟨?_, fun c member => ?_⟩, rest, whole.symm, rfl⟩
        · rw [keyEq]
          exact List.cons_ne_nil first others
        · exact List.mem_takeWhile_imp member
  · cases read

theorem headerEntry?_of_isWord {key rest : Text} (word : key.IsWord)
    (oneLine : '\n' ∉ rest) :
    headerEntry? (key ++ ':' :: rest) = some (key, trim rest) := by
  have valueOneLine : '\n' ∉ trimStart rest := by
    intro member
    exact oneLine ((List.dropWhile_sublist isWhiteSpace).subset member)
  obtain ⟨first, others, keyEq⟩ := List.exists_cons_of_ne_nil word.1
  unfold headerEntry?
  rw [takeWhile_run_append word.2 (stopsRun_colon rest),
    dropWhile_run_append word.2 (stopsRun_colon rest), keyEq]
  simp [valueOneLine, trim]

/-! ## Indents -/

theorem exists_indent_cons_iff {c : Char} {line unindented : Text} :
    (∃ indent : Text, indent.IsBlank ∧ c :: line = indent ++ unindented) ↔
      unindented = c :: line ∨
        isWhiteSpace c = true ∧
          ∃ indent : Text, indent.IsBlank ∧ line = indent ++ unindented := by
  constructor
  · rintro ⟨indent, blank, lineEq⟩
    cases indent with
    | nil =>
        exact Or.inl lineEq.symm
    | cons first indent =>
        rw [List.cons_append] at lineEq
        injection lineEq with firstEq restEq
        subst firstEq
        have laterBlank : IsBlank indent := fun d member =>
          blank d (List.mem_cons_of_mem c member)
        exact Or.inr ⟨blank c List.mem_cons_self, indent, laterBlank, restEq⟩
  · rintro (whole | ⟨white, indent, blank, lineEq⟩)
    · exact ⟨[], by simp [IsBlank], whole.symm⟩
    · refine ⟨c :: indent, ?_, by rw [lineEq, List.cons_append]⟩
      intro d member
      rcases List.mem_cons.mp member with first | later
      · rw [first]
        exact white
      · exact blank d later

/-- The possible indents of a line are the runs of white space at its start. -/
theorem mem_afterIndents_iff {line unindented : Text} :
    unindented ∈ afterIndents line ↔
      ∃ indent : Text, indent.IsBlank ∧ line = indent ++ unindented := by
  induction line with
  | nil =>
      simp [afterIndents, IsBlank]
  | cons c line inductionHypothesis =>
      rw [exists_indent_cons_iff, ← inductionHypothesis, afterIndents]
      by_cases white : isWhiteSpace c = true
      · rw [if_pos white, List.mem_append, List.mem_singleton]
        simp [white, or_comm]
      · rw [if_neg white, List.mem_singleton]
        simp [white]

/-! ## Lines -/

/-- A comment symbol that can start a line: it is not empty, stays on the line
and does not start with white space. -/
structure HasLineSymbol (language : Language) : Prop where
  nonempty : language.symbol ≠ []
  oneLine : '\n' ∉ language.symbol
  visible : Text.startsVisible language.symbol = true

theorem HasLineSymbol.stopsRun_append {language : Language}
    (symbol : language.HasLineSymbol) (rest : Text) :
    StopsRun isWhiteSpace (language.symbol ++ rest) :=
  (startsVisible_iff.mp symbol.visible).append symbol.nonempty rest

/-- A line that gives a key its value: an indent, the comment symbol, a gap, the
key, a colon, and the value with white space around it. -/
def IsHeaderLine (language : Language) (line key value : Text) : Prop :=
  ∃ indent gap rest : Text,
    indent.IsBlank ∧ gap.IsBlank ∧ key.IsWord ∧
      line = indent ++ language.symbol ++ gap ++ key ++ ':' :: rest ∧
      rest.Surrounds value

variable {language : Language} {line key value : Text}

theorem isHeaderLine_of_headerLine?
    (read : language.headerLine? line = some (key, value)) :
    language.IsHeaderLine line key value := by
  obtain ⟨unindented, member, found⟩ := List.exists_of_findSome?_eq_some read
  obtain ⟨indent, blank, lineEq⟩ := mem_afterIndents_iff.mp member
  obtain ⟨afterSymbol, symbolFound, entry⟩ := Option.bind_eq_some_iff.mp found
  have unindentedEq := after?_eq_some_iff.mp symbolFound
  obtain ⟨word, rest, entryEq, valueEq⟩ := exists_rest_of_entry entry
  -- The gap is what trimming has removed in front of the key.
  have gapEq :
      afterSymbol = afterSymbol.takeWhile isWhiteSpace ++ key ++ ':' :: rest := by
    rw [List.append_assoc, ← entryEq]
    exact List.takeWhile_append_dropWhile.symm
  refine ⟨indent, afterSymbol.takeWhile isWhiteSpace, rest, blank,
    isBlank_takeWhile afterSymbol, word, ?_, surrounds_iff.mpr valueEq.symm⟩
  rw [lineEq, unindentedEq]
  nth_rewrite 1 [gapEq]
  simp only [List.append_assoc]

/-- The reader gives an answer on every line of the grammar, at the latest when
it comes to the indent of the line. -/
theorem headerLine?_isSome (oneLine : '\n' ∉ line)
    (headed : language.IsHeaderLine line key value) :
    (language.headerLine? line).isSome = true := by
  obtain ⟨indent, gap, rest, blank, gapBlank, word, rfl, _⟩ := headed
  have restOneLine : '\n' ∉ rest := by
    intro member
    exact oneLine (by simp [member])
  have entryTrimmed :
      trimStart (gap ++ (key ++ ':' :: rest)) = key ++ ':' :: rest :=
    trimStart_blank_append gapBlank (word.stopsRun_append _)
  rw [headerLine?, List.findSome?_isSome_iff]
  refine ⟨language.symbol ++ (gap ++ (key ++ ':' :: rest)), ?_, ?_⟩
  · rw [mem_afterIndents_iff]
    exact ⟨indent, blank, by simp only [List.append_assoc]⟩
  · rw [after?_append, Option.bind_some, entryTrimmed,
      headerEntry?_of_isWord word restOneLine, Option.isSome_some]

theorem IsHeaderLine.unique {key' value' : Text}
    (symbol : language.HasLineSymbol)
    (headed : language.IsHeaderLine line key value)
    (headed' : language.IsHeaderLine line key' value') :
    key = key' ∧ value = value' := by
  obtain ⟨indent, gap, rest, blank, gapBlank, word, lineEq, around⟩ := headed
  obtain ⟨indent', gap', rest', blank', gapBlank', word', lineEq', around'⟩ :=
    headed'
  have same := lineEq.symm.trans lineEq'
  simp only [List.append_assoc] at same
  -- Indent, gap and key are longest runs, so each is the same in both readings.
  have afterIndent :=
    (run_append_inj blank blank' (symbol.stopsRun_append _)
      (symbol.stopsRun_append _) same).2
  have afterSymbol := List.append_cancel_left afterIndent
  have afterGap :=
    (run_append_inj gapBlank gapBlank' (word.stopsRun_append _)
      (word'.stopsRun_append _) afterSymbol).2
  have keyAndRest :=
    run_append_inj word.2 word'.2 (stopsRun_colon rest) (stopsRun_colon rest')
      afterGap
  injection keyAndRest.2 with _ restEq
  subst restEq
  exact ⟨keyAndRest.1, around.trim_eq.symm.trans around'.trim_eq⟩

theorem headerLine?_eq_some_iff (symbol : language.HasLineSymbol)
    (oneLine : '\n' ∉ line) :
    language.headerLine? line = some (key, value) ↔
      language.IsHeaderLine line key value := by
  constructor
  · exact isHeaderLine_of_headerLine?
  · intro headed
    have answers := headerLine?_isSome oneLine headed
    obtain ⟨⟨key', value'⟩, read⟩ := Option.isSome_iff_exists.mp answers
    have same := (isHeaderLine_of_headerLine? read).unique symbol headed
    rw [read, same.1, same.2]

/-- The reader of header lines accepts the lines of the grammar and no others,
and a line has at most one key and value. -/
theorem headerLine?_reads_grammar (language : Language)
    (symbol : language.HasLineSymbol) (line : Text) (oneLine : '\n' ∉ line) :
    (∀ key value,
      language.headerLine? line = some (key, value) ↔
        language.IsHeaderLine line key value) ∧
    (∀ key value key' value',
      language.IsHeaderLine line key value →
        language.IsHeaderLine line key' value' →
          key = key' ∧ value = value') ∧
    (language.headerLine? line = none ↔
      ∀ key value, ¬ language.IsHeaderLine line key value) := by
  refine ⟨fun key value => headerLine?_eq_some_iff symbol oneLine,
    fun key value key' value' headed headed' => headed.unique symbol headed', ?_⟩
  constructor
  · intro rejected key value headed
    have answers := headerLine?_isSome oneLine headed
    rw [rejected] at answers
    cases answers
  · intro outside
    rw [Option.eq_none_iff_forall_ne_some]
    rintro ⟨key, value⟩ read
    exact outside key value (isHeaderLine_of_headerLine? read)

/-- A symbol with a word and a colon in it: the key is the word after it, and
the value starts with a colon and the symbol.  A key of two words is none. -/
theorem headerLine?_reads_grammar_remark :
    headerLine? ⟨"basic", "REM a:", ["bas"]⟩
        "\t REM a:\u00a0Key_1:: REM a: b\u3000" =
      some ("Key_1".toList, ": REM a: b".toList) ∧
    ∀ key value,
      ¬ IsHeaderLine ⟨"basic", "REM a:", ["bas"]⟩ "REM a: Key 1: b" key value := by
  have symbol : HasLineSymbol ⟨"basic", "REM a:", ["bas"]⟩ :=
    ⟨by decide, by decide, by decide⟩
  constructor
  · apply ((headerLine?_reads_grammar _ symbol _ (by decide)).1 _ _).mpr
    refine ⟨"\t ".toList, "\u00a0".toList, ": REM a: b\u3000".toList, ?_, ?_, ?_,
      rfl, surrounds_iff.mpr (by decide)⟩
    · exact List.all_eq_true.mp (by decide)
    · exact List.all_eq_true.mp (by decide)
    · exact ⟨by decide, List.all_eq_true.mp (by decide)⟩
  · exact (headerLine?_reads_grammar _ symbol _ (by decide)).2.2.mp
      (by decide +kernel)

end Language

end Marginalia
