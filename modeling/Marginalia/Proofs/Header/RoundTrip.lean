import Marginalia.Header
import Marginalia.Proofs.Header.Grammar

/-!
# Written headers

A header can be written line by line, each line with a key and a value.  What is
read from such lines is, for every field, the value of the last line with its
key; lines with other keys are counted and otherwise ignored.
-/

namespace Marginalia

namespace Text

/-! ## Lines -/

theorem linesFrom_append_lineFeed {line : Text} (oneLine : '\n' ∉ line)
    (current rest : Text) :
    linesFrom current (line ++ '\n' :: rest) =
      dropReturn (current.reverse ++ line) :: lines rest := by
  induction line generalizing current with
  | nil =>
      simp [linesFrom, lines]
  | cons c line inductionHypothesis =>
      rw [List.mem_cons, not_or] at oneLine
      have notLineFeed : c ≠ '\n' := Ne.symm oneLine.1
      rw [List.cons_append, linesFrom, if_neg notLineFeed,
        inductionHypothesis oneLine.2, List.reverse_cons, List.append_assoc,
        List.singleton_append]

theorem dropReturn_eq_self {line : Text}
    (noReturn : line.getLast? ≠ some '\r') : dropReturn line = line := by
  rw [dropReturn]
  split
  · next rest reversed =>
      rw [← List.head?_reverse, reversed, List.head?_cons] at noReturn
      exact absurd rfl noReturn
  · rfl

/-- A written line is the first line of the text that it starts. -/
theorem lines_append_lineFeed {line : Text} (oneLine : '\n' ∉ line)
    (noReturn : line.getLast? ≠ some '\r') (rest : Text) :
    lines (line ++ '\n' :: rest) = line :: lines rest := by
  rw [lines, linesFrom_append_lineFeed oneLine, List.reverse_nil,
    List.nil_append, dropReturn_eq_self noReturn]

end Text

/-! ## Header lines -/

namespace Header

/-- A key and a value that can be written on a header line. -/
structure Line where
  key : Text
  value : Text
  keyNonempty : key ≠ [] := by decide
  keyWord : key.all isWordCharacter = true := by decide +kernel
  valueOneLine : '\n' ∉ value := by decide
  valueStart : Text.startsVisible value = true := by decide
  valueStop : Text.endsVisible value = true := by decide

namespace Line

/-- A header line without its line end. -/
def text (language : Language) (line : Line) : Text :=
  language.symbol ++ ' ' :: (line.key ++ ':' :: ' ' :: line.value)

theorem isWordCharacter_of_mem_key (line : Line) :
    ∀ c ∈ line.key, isWordCharacter c = true :=
  List.all_eq_true.mp line.keyWord

theorem lineFeed_not_mem_text {language : Language}
    (symbol : language.HasLineSymbol) (line : Line) :
    '\n' ∉ line.text language := by
  have notInKey : '\n' ∉ line.key := by
    intro member
    exact absurd (line.isWordCharacter_of_mem_key _ member) (by decide +kernel)
  simp [text, symbol.oneLine, notInKey, line.valueOneLine]

theorem headerLine?_text {language : Language} (symbol : language.HasLineSymbol)
    (line : Line) :
    language.headerLine? (line.text language) = some (line.key, line.value) := by
  have nothingBlank : Text.IsBlank [] := List.forall_mem_nil _
  have spaceBlank : Text.IsBlank [' '] := List.all_eq_true.mp (by decide)
  have around : Text.Surrounds (' ' :: line.value) line.value :=
    ⟨[' '], [], spaceBlank, nothingBlank, by simp, line.valueStart,
      line.valueStop⟩
  rw [Language.headerLine?_eq_some_iff symbol (line.lineFeed_not_mem_text symbol)]
  refine ⟨[], [' '], ' ' :: line.value, nothingBlank, spaceBlank,
    ⟨line.keyNonempty, line.isWordCharacter_of_mem_key⟩, ?_, around⟩
  simp [text]

theorem getLast?_text_ne_return (language : Language) (line : Line) :
    (line.text language).getLast? ≠ some '\r' := by
  have textEq :
      line.text language =
        (language.symbol ++ ' ' :: (line.key ++ [':'])) ++ ' ' :: line.value := by
    simp [text]
  rw [textEq, List.getLast?_append_of_ne_nil _ (List.cons_ne_nil _ _),
    List.getLast?_cons]
  intro last
  have visible := line.valueStop
  rw [Text.endsVisible] at visible
  cases valueLast : line.value.getLast? with
  | none =>
      rw [valueLast] at last
      exact absurd last (by decide)
  | some c =>
      rw [valueLast] at last visible
      cases last
      exact absurd visible (by decide)

end Line

/-- Header lines as they stand at the top of a file. -/
def written (language : Language) (lines : List Line) : Text :=
  lines.flatMap fun line => line.text language ++ ['\n']

theorem lines_written_append {language : Language}
    (symbol : language.HasLineSymbol) (lines : List Line) (body : Text) :
    Text.lines (written language lines ++ body) =
      lines.map (Line.text language) ++ body.lines := by
  induction lines with
  | nil =>
      rfl
  | cons line lines inductionHypothesis =>
      have split :
          written language (line :: lines) ++ body =
            line.text language ++
              '\n' :: (written language lines ++ body) := by
        simp [written]
      rw [split,
        Text.lines_append_lineFeed (line.lineFeed_not_mem_text symbol)
          (line.getLast?_text_ne_return language),
        inductionHypothesis, List.map_cons, List.cons_append]

/-! ## Fields -/

/-- The text that a header gives for a field. -/
def value? (header : Header) : HeaderField → Option Text
  | .commit => header.commit?
  | .commitDate => header.commitDate?.map Prod.snd
  | .sourceFile => header.sourceFile?
  | .sourceLink => header.sourceLink?
  | .docAuthor => header.docAuthor?

/-- The date of a header is what its text reads as. -/
def DateAgrees (header : Header) : Prop :=
  ∀ date text, header.commitDate? = some (date, text) →
    CommitDate.parse text = .ok date

/-- The value of the last line with a key. -/
def lastValue? (lines : List Line) (key : Text) : Option Text :=
  (lines.reverse.find? fun line => line.key == key).map Line.value

theorem lastValue?_cons (line : Line) (lines : List Line) (key : Text) :
    lastValue? (line :: lines) key =
      (lastValue? lines key).or
        (if line.key = key then some line.value else none) := by
  rw [lastValue?, lastValue?, List.reverse_cons, List.find?_append]
  by_cases same : line.key = key
  · cases lines.reverse.find? (fun line => line.key == key) <;>
      simp [same]
  · cases lines.reverse.find? (fun line => line.key == key) <;>
      simp [same]

theorem lastValue?_isSome {lines : List Line} {key : Text}
    (given : ∃ line ∈ lines, line.key = key) :
    ∃ value, lastValue? lines key = some value := by
  obtain ⟨line, member, same⟩ := given
  have found : (lines.reverse.find? fun line => line.key == key).isSome := by
    rw [List.find?_isSome]
    exact ⟨line, List.mem_reverse.mpr member, by simp [same]⟩
  obtain ⟨last, lastEq⟩ := Option.isSome_iff_exists.mp found
  exact ⟨last.value, by rw [lastValue?, lastEq, Option.map_some]⟩

@[simp]
theorem ofKey?_eq_some_iff {key : Text} {field : HeaderField} :
    HeaderField.ofKey? key = some field ↔ key = field.key := by
  constructor
  · intro found
    have same := List.find?_some found
    exact (beq_iff_eq.mp same).symm
  · rintro rfl
    cases field <;> decide

theorem key_injective {first second : HeaderField}
    (same : first.key = second.key) : first = second := by
  have found := ofKey?_eq_some_iff.mpr same
  rw [ofKey?_eq_some_iff.mpr rfl] at found
  exact Option.some.inj found

/-- Setting a field gives that field its value and leaves the others. -/
theorem value?_set {header updated : Header} {field : HeaderField} {value : Text}
    (set : header.set field value = .ok updated) (other : HeaderField) :
    updated.value? other =
      if field = other then some value else header.value? other := by
  cases field with
  | commitDate =>
      rw [Header.set] at set
      split at set
      · cases set
        cases other <;> rfl
      · cases set
  | _ =>
      cases set
      cases other <;> rfl

theorem lineCount_set {header updated : Header} {field : HeaderField}
    {value : Text} (set : header.set field value = .ok updated) :
    updated.lineCount = header.lineCount := by
  cases field with
  | commitDate =>
      rw [Header.set] at set
      split at set
      · cases set
        rfl
      · cases set
  | _ =>
      cases set
      rfl

theorem DateAgrees.set {header updated : Header} {field : HeaderField}
    {value : Text} (agrees : header.DateAgrees)
    (set : header.set field value = .ok updated) : updated.DateAgrees := by
  cases field with
  | commitDate =>
      rw [Header.set] at set
      split at set
      · next date read =>
          cases set
          intro date' text same
          cases same
          exact read
      · cases set
  | _ =>
      cases set
      exact agrees

theorem exists_set (header : Header) (field : HeaderField) (value : Text)
    (readable : field = .commitDate → (CommitDate.parse value).isOk = true) :
    ∃ updated, header.set field value = .ok updated := by
  cases field with
  | commitDate =>
      have accepted := readable rfl
      rw [Header.set]
      split
      · exact ⟨_, rfl⟩
      · next rejected =>
          rw [rejected] at accepted
          cases accepted
  | _ => exact ⟨_, rfl⟩

/-! ## Reading what is written -/

section Scan

variable {language : Language} {path : Path}

/-- The state after some written lines: every field has the value of the last
line with its key, or the one it had before. -/
structure ReadsTo (lines : List Line) (header result : Header) : Prop where
  value? : ∀ field,
    result.value? field = (lastValue? lines field.key).or (header.value? field)
  lineCount : result.lineCount = header.lineCount + lines.length
  dateAgrees : result.DateAgrees

/-- What one more line in front changes. -/
theorem ReadsTo.cons {line : Line} {lines : List Line}
    {header next result : Header}
    (step : ∀ field, next.value? field =
      if line.key = HeaderField.key field then some line.value
      else header.value? field)
    (count : next.lineCount = header.lineCount + 1)
    (rest : ReadsTo lines next result) :
    ReadsTo (line :: lines) header result where
  value? field := by
    rw [rest.value?, step, lastValue?_cons, Option.or_assoc]
    split <;> rfl
  lineCount := by
    rw [rest.lineCount, count, List.length_cons]
    omega
  dateAgrees := rest.dateAgrees

theorem scanLines_of_not_header {rest : List Text} (header : Header)
    (stops : ∀ first ∈ rest.head?, language.headerLine? first = none) :
    scanLines language path header rest = .ok header := by
  cases rest with
  | nil =>
      rfl
  | cons first rest =>
      rw [scanLines, stops first rfl]

theorem scanLines_written (path : Path) (symbol : language.HasLineSymbol)
    (lines : List Line)
    (dates : ∀ line ∈ lines, line.key = HeaderField.commitDate.key →
      (CommitDate.parse line.value).isOk = true)
    {rest : List Text}
    (stops : ∀ first ∈ rest.head?, language.headerLine? first = none)
    (header : Header) (agrees : header.DateAgrees) :
    ∃ result,
      scanLines language path header (lines.map (Line.text language) ++ rest) =
        .ok result ∧
      ReadsTo lines header result := by
  -- The induction is on the lines still to be read; the header so far varies.
  induction lines generalizing header with
  | nil =>
      refine ⟨header, scanLines_of_not_header header stops, ?_⟩
      exact ⟨fun field => by simp [lastValue?], rfl, agrees⟩
  | cons line lines inductionHypothesis =>
      have laterDates := fun other member =>
        dates other (List.mem_cons_of_mem line member)
      rw [List.map_cons, List.cons_append, scanLines,
        line.headerLine?_text symbol]
      cases known : HeaderField.ofKey? line.key with
      | none =>
          obtain ⟨result, scanned, reads⟩ :=
            inductionHypothesis laterDates header.nextLine agrees
          refine ⟨result, by simpa [known] using scanned, reads.cons ?_ rfl⟩
          intro field
          rw [if_neg]
          · rfl
          · intro same
            rw [ofKey?_eq_some_iff.mpr same] at known
            cases known
      | some field =>
          have keyEq : line.key = field.key := ofKey?_eq_some_iff.mp known
          obtain ⟨updated, set⟩ :=
            header.exists_set field line.value fun isDate =>
              dates line List.mem_cons_self (isDate ▸ keyEq)
          obtain ⟨result, scanned, reads⟩ :=
            inductionHypothesis laterDates updated.nextLine
              (show updated.DateAgrees from agrees.set set)
          refine ⟨result, by simpa [known, set] using scanned,
            reads.cons ?_ (congrArg (· + 1) (lineCount_set set))⟩
          intro other
          rw [show updated.nextLine.value? other = updated.value? other from rfl,
            value?_set set other, keyEq]
          exact if_congr ⟨congrArg _, key_injective⟩ rfl rfl

end Scan

/-- A header with a value for every field is a snapshot with these values. -/
theorem exists_snapshot? {header : Header}
    (complete : ∀ field, ∃ value, header.value? field = some value)
    (agrees : header.DateAgrees) (artifact : Text) (path : Path) :
    ∃ snapshot,
      header.snapshot? artifact path = some snapshot ∧
      header.value? .commit = some snapshot.commit ∧
      header.value? .commitDate = some snapshot.dateText ∧
      header.value? .sourceFile = some snapshot.sourceFile ∧
      header.value? .sourceLink = some snapshot.sourceLink ∧
      header.value? .docAuthor = some snapshot.author ∧
      CommitDate.parse snapshot.dateText = .ok snapshot.date ∧
      snapshot.artifact = artifact ∧ snapshot.docFile = path ∧
      snapshot.firstCodeLine = header.lineCount := by
  obtain ⟨commit, commitEq⟩ := complete .commit
  obtain ⟨dateText, dateTextEq⟩ := complete .commitDate
  obtain ⟨sourceFile, sourceFileEq⟩ := complete .sourceFile
  obtain ⟨sourceLink, sourceLinkEq⟩ := complete .sourceLink
  obtain ⟨author, authorEq⟩ := complete .docAuthor
  obtain ⟨⟨date, text⟩, dateEq, rfl⟩ := Option.map_eq_some_iff.mp dateTextEq
  simp only [value?] at commitEq sourceFileEq sourceLinkEq authorEq
  refine ⟨⟨artifact, commit, date, text, sourceFile, sourceLink, author, path,
    header.lineCount⟩, ?_, commitEq, dateTextEq, sourceFileEq, sourceLinkEq,
    authorEq, agrees date text dateEq, rfl, rfl, rfl⟩
  rw [snapshot?, commitEq, dateEq, sourceFileEq, sourceLinkEq, authorEq]
  rfl

/-- Reading a written header in front of a body gives, for every field, the value
of the last line with its key, and the number of all written lines. -/
theorem parse_written_append (language : Language)
    (symbol : language.HasLineSymbol) (lines : List Line)
    (complete : ∀ field : HeaderField, ∃ line ∈ lines, line.key = field.key)
    (dates : ∀ line ∈ lines, line.key = HeaderField.commitDate.key →
      (CommitDate.parse line.value).isOk = true)
    (artifact : Text) (path : Path) (body : Text)
    (stops : ∀ first ∈ body.lines.head?, language.headerLine? first = none) :
    ∃ snapshot,
      parse language artifact path (written language lines ++ body) =
        .ok snapshot ∧
      lastValue? lines "Commit" = some snapshot.commit ∧
      lastValue? lines "CommitDate" = some snapshot.dateText ∧
      lastValue? lines "SourceFile" = some snapshot.sourceFile ∧
      lastValue? lines "SourceLink" = some snapshot.sourceLink ∧
      lastValue? lines "DocAuthor" = some snapshot.author ∧
      CommitDate.parse snapshot.dateText = .ok snapshot.date ∧
      snapshot.artifact = artifact ∧ snapshot.docFile = path ∧
      snapshot.firstCodeLine = lines.length := by
  have emptyAgrees : ({} : Header).DateAgrees := by
    intro date text none
    cases none
  obtain ⟨header, scanned, reads⟩ :=
    scanLines_written path symbol lines dates stops {} emptyAgrees
  have valueEq (field : HeaderField) :
      header.value? field = lastValue? lines field.key := by
    rw [reads.value?]
    cases field <;> exact Option.or_none
  have allGiven (field : HeaderField) :
      ∃ value, header.value? field = some value := by
    rw [valueEq]
    exact lastValue?_isSome (complete field)
  obtain ⟨snapshot, snapshotEq, fields⟩ :=
    exists_snapshot? allGiven reads.dateAgrees artifact path
  simp only [valueEq, reads.lineCount, Nat.zero_add] at fields
  refine ⟨snapshot, ?_, fields⟩
  rw [parse, scan, lines_written_append symbol, scanned]
  simp only [snapshotEq]

/-- A repeated field, an unknown key and a value with a colon and the symbol in
it, in front of a body with one more line that looks like a header. -/
theorem parse_written_append_go :
    ∃ snapshot,
      parse ⟨"go", "//", ["go"]⟩ "art" "in/art/a.go"
          ("// Commit: a1\n// DocAuthor: Ada\n// Note: \n" ++
            "// CommitDate: Feb 29 2020\n// SourceFile: a.go\n" ++
            "// SourceLink: https://a.b/c: //\n// Commit: b\r2\n" ++
            "package a\n// Commit: c3\n") =
        .ok snapshot ∧
      snapshot.commit = "b\r2".toList ∧
      snapshot.date = ⟨2020, 2, 29⟩ ∧
      snapshot.sourceLink = "https://a.b/c: //".toList ∧
      snapshot.firstCodeLine = 7 := by
  obtain ⟨snapshot, parsed, commit, dateText, _, link, _, date, _, _, count⟩ :=
    parse_written_append ⟨"go", "//", ["go"]⟩ ⟨by decide, by decide, by decide⟩
      [{ key := "Commit", value := "a1" },
        { key := "DocAuthor", value := "Ada" },
        { key := "Note", value := "" },
        { key := "CommitDate", value := "Feb 29 2020" },
        { key := "SourceFile", value := "a.go" },
        { key := "SourceLink", value := "https://a.b/c: //" },
        { key := "Commit", value := "b\r2" }]
      (by intro field; cases field <;> decide)
      (by decide)
      "art" "in/art/a.go" "package a\n// Commit: c3\n"
      (by intro first head; cases head; decide)
  have dateTextEq : "Feb 29 2020".toList = snapshot.dateText :=
    Option.some.inj dateText
  have dateEq : CommitDate.parse "Feb 29 2020" = .ok ⟨2020, 2, 29⟩ := by decide
  rw [← dateTextEq, dateEq] at date
  exact ⟨snapshot, parsed, (Option.some.inj commit).symm,
    (Except.ok.inj date).symm, (Option.some.inj link).symm, count⟩

end Header
end Marginalia
