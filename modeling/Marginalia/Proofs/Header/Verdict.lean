import Marginalia.Proofs.Header.RoundTrip
import Marginalia.Proofs.Text.Run

/-!
# What a header decides

The header of a file is the longest run of header lines at its top.  These lines
alone decide what reading the header answers: the first commit date that cannot
be read is an error, whatever else is missing; otherwise the fields without a
line are an error; otherwise every field has the value of its last line.
-/

namespace Marginalia

/-- The text that a snapshot has for a header field. -/
def Snapshot.textOf (snapshot : Snapshot) : HeaderField → Text
  | .commit => snapshot.commit
  | .commitDate => snapshot.dateText
  | .sourceFile => snapshot.sourceFile
  | .sourceLink => snapshot.sourceLink
  | .docAuthor => snapshot.author

theorem Snapshot.eq_of_textOf {first second : Snapshot}
    (texts : ∀ field, first.textOf field = second.textOf field)
    (date : first.date = second.date)
    (artifact : first.artifact = second.artifact)
    (docFile : first.docFile = second.docFile)
    (firstCodeLine : first.firstCodeLine = second.firstCodeLine) :
    first = second := by
  have commit : first.commit = second.commit := texts .commit
  have dateText : first.dateText = second.dateText := texts .commitDate
  have sourceFile : first.sourceFile = second.sourceFile := texts .sourceFile
  have sourceLink : first.sourceLink = second.sourceLink := texts .sourceLink
  have author : first.author = second.author := texts .docAuthor
  cases first
  cases second
  simp_all

namespace Header

/-! ## Lines and their values -/

/-- The longest run of header lines at the start of some lines. -/
def block (language : Language) (lines : List Text) : List Text :=
  lines.takeWhile fun line => (language.headerLine? line).isSome

/-- The value that a line gives to a field. -/
def valueOf? (language : Language) (field : HeaderField) (line : Text) :
    Option Text :=
  match language.headerLine? line with
  | some (key, value) => if key = field.key then some value else none
  | none => none

/-- The values that some lines give to a field, in their order. -/
def valuesOf (language : Language) (field : HeaderField) (lines : List Text) :
    List Text :=
  lines.filterMap (valueOf? language field)

/-- The commit dates of some lines that cannot be read, each with the reason. -/
def rejectedDates (language : Language) (lines : List Text) :
    List (Text × CommitDateError) :=
  (valuesOf language .commitDate lines).filterMap fun value =>
    match CommitDate.parse value with
    | .ok _ => none
    | .error fault => some (value, fault)

/-- The fields that no line gives a value, in canonical order. -/
def absentFields (language : Language) (lines : List Text) : List HeaderField :=
  HeaderField.all.filter fun field => (valuesOf language field lines).isEmpty

/-- What the lines of a header decide. -/
inductive Verdict (language : Language) (artifact : Text) (path : Path)
    (lines : List Text) : Except Failure Snapshot → Prop
  | invalidDate {value : Text} {fault : CommitDateError}
      (first : (rejectedDates language lines).head? = some (value, fault)) :
      Verdict language artifact path lines
        (.error (.invalidCommitDate path value fault))
  | missing (readable : rejectedDates language lines = [])
      (absent : absentFields language lines ≠ []) :
      Verdict language artifact path lines
        (.error (.missingHeaders path (absentFields language lines)))
  | complete {snapshot : Snapshot}
      (readable : rejectedDates language lines = [])
      (last : ∀ field,
        (valuesOf language field lines).getLast? = some (snapshot.textOf field))
      (date : CommitDate.parse snapshot.dateText = .ok snapshot.date)
      (artifactEq : snapshot.artifact = artifact)
      (docFile : snapshot.docFile = path)
      (firstCodeLine : snapshot.firstCodeLine = lines.length) :
      Verdict language artifact path lines (.ok snapshot)

section Lines

variable {language : Language} {line : Text} {key value : Text}

@[simp]
theorem valuesOf_append (field : HeaderField) (first second : List Text) :
    valuesOf language field (first ++ second) =
      valuesOf language field first ++ valuesOf language field second :=
  List.filterMap_append

@[simp]
theorem rejectedDates_append (first second : List Text) :
    rejectedDates language (first ++ second) =
      rejectedDates language first ++ rejectedDates language second := by
  rw [rejectedDates, valuesOf_append, List.filterMap_append]
  rfl

theorem getLast?_valuesOf_concat (field : HeaderField) (lines : List Text)
    (read : language.headerLine? line = some (key, value)) :
    (valuesOf language field (lines ++ [line])).getLast? =
      if key = field.key then some value
      else (valuesOf language field lines).getLast? := by
  have lineValue :
      valueOf? language field line =
        if key = field.key then some value else none := by
    rw [valueOf?, read]
  rw [valuesOf_append]
  by_cases same : key = field.key
  · simp [valuesOf, lineValue, same]
  · simp [valuesOf, lineValue, same]

theorem rejectedDates_singleton_of_ne
    (read : language.headerLine? line = some (key, value))
    (different : key ≠ HeaderField.commitDate.key) :
    rejectedDates language [line] = [] := by
  simp [rejectedDates, valuesOf, valueOf?, read, different]

theorem rejectedDates_singleton_of_ok {date : CalendarDate}
    (read : language.headerLine? line = some (HeaderField.commitDate.key, value))
    (accepted : CommitDate.parse value = .ok date) :
    rejectedDates language [line] = [] := by
  simp [rejectedDates, valuesOf, valueOf?, read, accepted]

theorem rejectedDates_singleton_of_error {fault : CommitDateError}
    (read : language.headerLine? line = some (HeaderField.commitDate.key, value))
    (rejected : CommitDate.parse value = .error fault) :
    rejectedDates language [line] = [(value, fault)] := by
  simp [rejectedDates, valuesOf, valueOf?, read, rejected]

theorem block_cons_of_header (rest : List Text)
    (read : language.headerLine? line = some (key, value)) :
    block language (line :: rest) = line :: block language rest :=
  List.takeWhile_cons_of_pos (by simp [read])

theorem block_cons_of_not_header (rest : List Text)
    (read : language.headerLine? line = none) :
    block language (line :: rest) = [] :=
  List.takeWhile_cons_of_neg (by simp [read])

theorem isSome_of_mem_block {lines : List Text}
    (member : line ∈ block language lines) :
    (language.headerLine? line).isSome = true := by
  rw [block] at member
  simpa using List.mem_takeWhile_imp member

theorem exists_body (language : Language) (lines : List Text) :
    ∃ body, lines = block language lines ++ body ∧
      ∀ line ∈ body.head?, language.headerLine? line = none := by
  refine ⟨lines.dropWhile fun line => (language.headerLine? line).isSome,
    List.takeWhile_append_dropWhile.symm, fun line first => ?_⟩
  simpa using stopsRun_dropWhile lines line first

end Lines

/-! ## Setting a field -/

theorem parse_of_set_eq_ok {header updated : Header} {value : Text}
    (set : header.set .commitDate value = .ok updated) :
    ∃ date, CommitDate.parse value = .ok date := by
  rw [Header.set] at set
  split at set
  · next date accepted =>
      exact ⟨date, accepted⟩
  · cases set

theorem parse_of_set_eq_error {header : Header} {field : HeaderField}
    {value : Text} {fault : CommitDateError}
    (set : header.set field value = .error fault) :
    field = .commitDate ∧ CommitDate.parse value = .error fault := by
  cases field with
  | commitDate =>
      rw [Header.set] at set
      split at set
      · cases set
      · next rejected =>
          cases set
          exact ⟨rfl, rejected⟩
  | _ => cases set

/-! ## Reading lines -/

section Scan

variable {language : Language}

/-- The header after some lines: every field has the value of its last line, and
no commit date was rejected. -/
structure Holds (language : Language) (lines : List Text) (header : Header) :
    Prop where
  value? : ∀ field,
    header.value? field = (valuesOf language field lines).getLast?
  lineCount : header.lineCount = lines.length
  readable : rejectedDates language lines = []
  dateAgrees : header.DateAgrees

theorem holds_nil (language : Language) : Holds language [] {} where
  value? field := by cases field <;> rfl
  lineCount := rfl
  readable := rfl
  dateAgrees := by
    intro date text none
    cases none

variable {lines : List Text} {header : Header} {line key value : Text}

theorem Holds.unknown (holds : Holds language lines header)
    (read : language.headerLine? line = some (key, value))
    (unknown : HeaderField.ofKey? key = none) :
    Holds language (lines ++ [line]) header.nextLine := by
  have different (field : HeaderField) : key ≠ field.key := by
    intro same
    rw [ofKey?_eq_some_iff.mpr same] at unknown
    cases unknown
  refine ⟨fun field => ?_, ?_, ?_, holds.dateAgrees⟩
  · rw [getLast?_valuesOf_concat field lines read, if_neg (different field)]
    exact holds.value? field
  · rw [List.length_append, ← holds.lineCount]
    rfl
  · rw [rejectedDates_append, holds.readable,
      rejectedDates_singleton_of_ne read (different .commitDate),
      List.append_nil]

theorem Holds.set {field : HeaderField} {updated : Header}
    (holds : Holds language lines header)
    (read : language.headerLine? line = some (field.key, value))
    (set : header.set field value = .ok updated) :
    Holds language (lines ++ [line]) updated.nextLine := by
  have agrees : updated.DateAgrees := holds.dateAgrees.set set
  refine ⟨fun other => ?_, ?_, ?_, agrees⟩
  · have valueEq : updated.nextLine.value? other = updated.value? other := rfl
    rw [getLast?_valuesOf_concat other lines read, valueEq, value?_set set other,
      holds.value? other]
    exact if_congr ⟨congrArg _, key_injective⟩ rfl rfl
  · rw [List.length_append, ← holds.lineCount, ← lineCount_set set]
    rfl
  · rw [rejectedDates_append, holds.readable, List.nil_append]
    by_cases isDate : field = .commitDate
    · subst isDate
      obtain ⟨date, accepted⟩ := parse_of_set_eq_ok set
      exact rejectedDates_singleton_of_ok read accepted
    · apply rejectedDates_singleton_of_ne read
      exact fun same => isDate (key_injective same)

/-- Reading goes on to the end of the header, or stops at the first commit date
that cannot be read. -/
theorem scanLines_block (path : Path) (rest : List Text)
    (holds : Holds language lines header) :
    (∃ result,
      scanLines language path header rest = .ok result ∧
        Holds language (lines ++ block language rest) result) ∨
    ∃ value fault,
      scanLines language path header rest =
        .error (.invalidCommitDate path value fault) ∧
      (rejectedDates language (lines ++ block language rest)).head? =
        some (value, fault) := by
  -- The induction is on the lines still to be read; the lines read so far and
  -- their header vary.
  induction rest generalizing lines header with
  | nil =>
      exact Or.inl ⟨header, rfl, by simpa [block] using holds⟩
  | cons line rest inductionHypothesis =>
      rw [scanLines]
      cases read : language.headerLine? line with
      | none =>
          rw [block_cons_of_not_header rest read, List.append_nil]
          exact Or.inl ⟨header, rfl, holds⟩
      | some entry =>
          obtain ⟨key, value⟩ := entry
          have linesEq :
              lines ++ block language (line :: rest) =
                lines ++ [line] ++ block language rest := by
            rw [block_cons_of_header rest read, List.append_assoc,
              List.singleton_append]
          rw [linesEq]
          cases known : HeaderField.ofKey? key with
          | none =>
              simpa [known] using inductionHypothesis (holds.unknown read known)
          | some field =>
              have keyEq : key = field.key := ofKey?_eq_some_iff.mp known
              subst keyEq
              cases set : header.set field value with
              | ok updated =>
                  simpa [known, set] using inductionHypothesis (holds.set read set)
              | error fault =>
                  obtain ⟨isDate, rejected⟩ := parse_of_set_eq_error set
                  subst isDate
                  refine Or.inr ⟨value, fault, by simp [known, set], ?_⟩
                  rw [rejectedDates_append, rejectedDates_append, holds.readable,
                    rejectedDates_singleton_of_error read rejected]
                  rfl

end Scan

/-! ## The verdict -/

theorem has_eq (header : Header) (field : HeaderField) :
    header.has field = (header.value? field).isSome := by
  cases field <;> simp [has, value?]

@[simp]
theorem mem_missing_iff {header : Header} {field : HeaderField} :
    field ∈ header.missing ↔ header.value? field = none := by
  have listed : field ∈ HeaderField.all := by
    cases field <;> decide
  simp [missing, listed, has_eq]

theorem snapshot?_eq_none {header : Header} {field : HeaderField}
    (absent : header.value? field = none) (artifact : Text) (path : Path) :
    header.snapshot? artifact path = none := by
  cases field <;> simp [value?] at absent <;> simp [snapshot?, absent]

theorem Holds.missing_eq {language : Language} {lines : List Text}
    {header : Header} (holds : Holds language lines header) :
    header.missing = absentFields language lines := by
  apply List.filter_congr
  intro field _
  rw [has_eq, holds.value? field]
  cases valuesOf language field lines <;> simp

/-- The verdict on lines that all could be read. -/
theorem Holds.verdict {language : Language} {lines : List Text}
    {header : Header} (holds : Holds language lines header) {artifact : Text}
    {path : Path} {contents : Text}
    (scanned : scan language path contents = .ok header) :
    Verdict language artifact path lines
      (parse language artifact path contents) := by
  rw [parse, scanned]
  dsimp only
  by_cases whole : header.missing = []
  · have complete (field : HeaderField) :
        ∃ value, header.value? field = some value := by
      rw [← Option.ne_none_iff_exists', Ne, ← mem_missing_iff, whole]
      exact List.not_mem_nil
    obtain ⟨snapshot, found, commit, dateText, sourceFile, sourceLink, author,
      date, artifactEq, docFile, firstCodeLine⟩ :=
      exists_snapshot? complete holds.dateAgrees artifact path
    have last (field : HeaderField) :
        (valuesOf language field lines).getLast? =
          some (snapshot.textOf field) := by
      rw [← holds.value?]
      cases field <;> assumption
    rw [found]
    exact .complete holds.readable last date artifactEq docFile
      (firstCodeLine.trans holds.lineCount)
  · obtain ⟨field, isMissing⟩ := List.exists_mem_of_ne_nil _ whole
    rw [snapshot?_eq_none (mem_missing_iff.mp isMissing), holds.missing_eq]
    rw [holds.missing_eq] at whole
    exact .missing holds.readable whole

/-- What reading the header answers is the verdict of its lines. -/
theorem verdict_parse (language : Language) (artifact : Text) (path : Path)
    (contents : Text) :
    Verdict language artifact path (block language contents.lines)
      (parse language artifact path contents) := by
  rcases scanLines_block path contents.lines (holds_nil language) with
    ⟨header, scanned, holds⟩ | ⟨value, fault, scanned, first⟩
  · exact holds.verdict scanned
  · rw [parse, scan, scanned]
    exact .invalidDate first

theorem absentFields_eq_nil {language : Language} {lines : List Text}
    {snapshot : Snapshot}
    (last : ∀ field,
      (valuesOf language field lines).getLast? = some (snapshot.textOf field)) :
    absentFields language lines = [] := by
  apply List.filter_eq_nil_iff.mpr
  intro field _ isEmpty
  have given := last field
  rw [List.isEmpty_iff.mp isEmpty] at given
  cases given

theorem Verdict.unique {language : Language} {artifact : Text} {path : Path}
    {lines : List Text} {result result' : Except Failure Snapshot}
    (verdict : Verdict language artifact path lines result)
    (verdict' : Verdict language artifact path lines result') :
    result = result' := by
  cases verdict with
  | invalidDate first =>
      cases verdict' with
      | invalidDate first' =>
          rw [first] at first'
          cases first'
          rfl
      | missing readable _ =>
          simp [readable] at first
      | complete readable =>
          simp [readable] at first
  | missing readable absent =>
      cases verdict' with
      | invalidDate first =>
          simp [readable] at first
      | missing _ _ =>
          rfl
      | complete _ last =>
          exact absurd (absentFields_eq_nil last) absent
  | @complete snapshot readable last date artifactEq docFile firstCodeLine =>
      cases verdict' with
      | invalidDate first =>
          simp [readable] at first
      | missing _ absent =>
          exact absurd (absentFields_eq_nil last) absent
      | @complete snapshot' _ last' date' artifactEq' docFile' firstCodeLine' =>
          have texts (field : HeaderField) :
              snapshot.textOf field = snapshot'.textOf field :=
            Option.some.inj ((last field).symm.trans (last' field))
          have dateEq : snapshot.date = snapshot'.date := by
            have dateText : snapshot.dateText = snapshot'.dateText :=
              texts .commitDate
            rw [dateText, date'] at date
            exact (Except.ok.inj date).symm
          rw [Snapshot.eq_of_textOf texts dateEq
            (artifactEq.trans artifactEq'.symm) (docFile.trans docFile'.symm)
            (firstCodeLine.trans firstCodeLine'.symm)]

/-- Reading a header decides by the longest run of header lines at the top of
the file, and by nothing else. -/
theorem parse_decided_by_block (language : Language) (artifact : Text)
    (path : Path) (contents : Text) :
    (∀ leading,
      leading <+: block language contents.lines ↔
        leading <+: contents.lines ∧
          ∀ line ∈ leading, (language.headerLine? line).isSome = true) ∧
    (∀ result,
      parse language artifact path contents = result ↔
        Verdict language artifact path (block language contents.lines) result) ∧
    (∀ other : Text,
      block language other.lines = block language contents.lines →
        parse language artifact path other =
          parse language artifact path contents) := by
  have decided := verdict_parse language artifact path
  refine ⟨fun leading => leading_takeWhile_iff, fun result => ?_,
    fun other same => ?_⟩
  · constructor
    · rintro rfl
      exact decided contents
    · exact (decided contents).unique
  · have otherDecided := decided other
    rw [same] at otherDecided
    exact otherDecided.unique (decided contents)

end Header
end Marginalia
