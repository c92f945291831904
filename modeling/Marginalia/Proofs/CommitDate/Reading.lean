import Marginalia.CommitDate
import Marginalia.Proofs.Text.Number
import Mathlib.Tactic.IntervalCases

/-!
# Commit dates and the calendar

A commit date is accepted exactly if it is written as a month, a day and a year and
names a day of the calendar.  The shape of a value allows digits of all scripts, but
only ASCII digits are read, and nothing may be left over.
-/

namespace Marginalia

/-! ## The calendar -/

namespace CalendarDate

/-- Every fourth year is a leap year, but of the centuries only every fourth. -/
def IsLeapYear (year : Int) : Prop :=
  4 ∣ year ∧ (100 ∣ year → 400 ∣ year)

/-- A day of the Gregorian calendar, extended to all years. -/
structure IsGregorian (date : CalendarDate) : Prop where
  month : 1 ≤ date.month ∧ date.month ≤ 12
  day : 1 ≤ date.day ∧ date.day ≤ 31
  shortMonth : date.month ∈ [4, 6, 9, 11] → date.day ≤ 30
  february : date.month = 2 → date.day ≤ 29
  leapDay : date.month = 2 → date.day = 29 → IsLeapYear date.year

@[simp]
theorem isLeapYear_iff {year : Int} : isLeapYear year = true ↔ IsLeapYear year := by
  simp only [isLeapYear, IsLeapYear, Bool.and_eq_true, Bool.or_eq_true, beq_iff_eq,
    bne_iff_ne]
  omega

theorem daysInMonth_eq (year : Int) (month : Nat) :
    daysInMonth year month =
      if month = 2 then if isLeapYear year then 29 else 28
      else if month ∈ [4, 6, 9, 11] then 30
      else if 1 ≤ month ∧ month ≤ 12 then 31
      else 0 := by
  by_cases inYear : month ≤ 12
  · interval_cases month <;> rfl
  · obtain ⟨later, rfl⟩ := Nat.exists_eq_add_of_lt (Nat.lt_of_not_le inYear)
    rw [show 12 + later + 1 = later + 13 by omega]
    simp [daysInMonth]

@[simp]
theorem isDay_iff {date : CalendarDate} : date.isDay = true ↔ date.IsGregorian := by
  rw [isDay, Bool.and_eq_true, decide_eq_true_iff, decide_eq_true_iff, daysInMonth_eq]
  constructor
  · rintro ⟨atLeast, atMost⟩
    split at atMost
    · next february =>
        split at atMost
        · next leap =>
            exact ⟨by omega, by omega, by simp [february], fun _ => atMost,
              fun _ _ => isLeapYear_iff.mp leap⟩
        · exact ⟨by omega, by omega, by simp [february], by omega, by omega⟩
    · next notFebruary =>
        split at atMost
        · next short =>
            have inYear : 1 ≤ date.month ∧ date.month ≤ 12 := by
              simp only [List.mem_cons, List.not_mem_nil, or_false] at short
              omega
            exact ⟨inYear, by omega, fun _ => atMost, fun february =>
              absurd february notFebruary, fun february => absurd february notFebruary⟩
        · next notShort =>
            split at atMost
            · next inYear =>
                exact ⟨inYear, ⟨atLeast, atMost⟩, fun short => absurd short notShort,
                  fun february => absurd february notFebruary,
                  fun february => absurd february notFebruary⟩
            · omega
  · intro gregorian
    refine ⟨gregorian.day.1, ?_⟩
    split
    · next february =>
        have atMost := gregorian.february february
        split
        · exact atMost
        · next common =>
            have notLeapDay : date.day ≠ 29 := fun last =>
              common (isLeapYear_iff.mpr (gregorian.leapDay february last))
            omega
    · split
      · next short =>
          exact gregorian.shortMonth short
      · rw [if_pos gregorian.month]
        exact gregorian.day.2

end CalendarDate

namespace CommitDate

open Text CalendarDate

/-! ## Shape -/

/-- A text is a month, a day of one or two characters and a year of four, with single
spaces between them. -/
structure HasParts (text month day year : Text) : Prop where
  textEq : text = month ++ ' ' :: (day ++ ' ' :: year)
  dayLength : day.length = 1 ∨ day.length = 2
  yearLength : year.length = 4

/-- The month of the text is three English letters, and its day and year are digits of
any script. -/
def IsShaped (text : Text) : Prop :=
  ∃ month day year, HasParts text month day year ∧
    month.length = 3 ∧ (∀ c ∈ month, c.isAlpha = true) ∧
    (∀ c ∈ day, isDecimalDigit c = true) ∧ ∀ c ∈ year, isDecimalDigit c = true

@[simp]
theorem isLetter_eq (c : Char) : isLetter c = c.isAlpha := by
  have lower : (decide ('a' ≤ c) && decide (c ≤ 'z')) = c.isLower := rfl
  have upper : (decide ('A' ≤ c) && decide (c ≤ 'Z')) = c.isUpper :=
    (Bool.decide_and ('A' ≤ c) (c ≤ 'Z')).symm
  rw [isLetter, lower, upper]
  exact Bool.or_comm c.isLower c.isUpper

theorem hasDayAndYear_iff {text : Text} :
    hasDayAndYear text = true ↔
      ∃ day year : Text, text = day ++ ' ' :: year ∧
        (day.length = 1 ∨ day.length = 2) ∧ year.length = 4 ∧
        (∀ c ∈ day, isDecimalDigit c = true) ∧ ∀ c ∈ year, isDecimalDigit c = true := by
  constructor
  · intro shaped
    rw [hasDayAndYear.eq_def] at shaped
    split at shaped
    · next a p q r s =>
        have digits : ∀ c ∈ [a] ++ [p, q, r, s], isDecimalDigit c = true :=
          List.all_eq_true.mp shaped
        obtain ⟨dayDigits, yearDigits⟩ := List.forall_mem_append.mp digits
        exact ⟨[a], [p, q, r, s], rfl, Or.inl rfl, rfl, dayDigits, yearDigits⟩
    · next a b p q r s =>
        have digits : ∀ c ∈ [a, b] ++ [p, q, r, s], isDecimalDigit c = true :=
          List.all_eq_true.mp shaped
        obtain ⟨dayDigits, yearDigits⟩ := List.forall_mem_append.mp digits
        exact ⟨[a, b], [p, q, r, s], rfl, Or.inr rfl, rfl, dayDigits, yearDigits⟩
    · cases shaped
  · rintro ⟨day, year, rfl, dayLength, yearLength, dayDigits, yearDigits⟩
    obtain ⟨p, others, rfl⟩ := List.exists_cons_of_length_eq_add_one yearLength
    obtain ⟨q, r, s, rfl⟩ := List.length_eq_three.mp (Nat.succ.inj yearLength)
    rcases dayLength with one | two
    · obtain ⟨a, rfl⟩ := List.length_eq_one_iff.mp one
      exact List.all_eq_true.mpr (List.forall_mem_append.mpr ⟨dayDigits, yearDigits⟩)
    · obtain ⟨a, b, rfl⟩ := List.length_eq_two.mp two
      rw [List.cons_append, List.cons_append, List.nil_append, hasDayAndYear]
      exact List.all_eq_true.mpr (List.forall_mem_append.mpr ⟨dayDigits, yearDigits⟩)

theorem hasShape_iff {text : Text} : hasShape text = true ↔ IsShaped text := by
  constructor
  · intro shaped
    rw [hasShape.eq_def] at shaped
    split at shaped
    · next a b c rest =>
        obtain ⟨letters, dayAndYear⟩ := Bool.and_eq_true_iff.mp shaped
        obtain ⟨day, year, rfl, dayLength, yearLength, dayDigits, yearDigits⟩ :=
          hasDayAndYear_iff.mp dayAndYear
        refine ⟨[a, b, c], day, year, ⟨rfl, dayLength, yearLength⟩, rfl,
          fun letter member => ?_, dayDigits, yearDigits⟩
        rw [← isLetter_eq]
        exact List.all_eq_true.mp letters letter member
    · cases shaped
  · rintro ⟨month, day, year, ⟨rfl, dayLength, yearLength⟩, monthLength, letters,
      dayDigits, yearDigits⟩
    obtain ⟨a, b, c, rfl⟩ := List.length_eq_three.mp monthLength
    refine Bool.and_eq_true_iff.mpr ⟨?_, hasDayAndYear_iff.mpr
      ⟨day, year, rfl, dayLength, yearLength, dayDigits, yearDigits⟩⟩
    rw [List.all_eq_true]
    intro letter member
    rw [isLetter_eq]
    exact letters letter member

theorem isWhiteSpace_eq_false_of_isAlpha {c : Char} (letter : c.isAlpha = true) :
    isWhiteSpace c = false := by
  simp only [← isLetter_eq, isLetter, Bool.or_eq_true, Bool.and_eq_true,
    decide_eq_true_eq, Char.le_def, UInt32.le_iff_toNat_le] at letter
  change 97 ≤ c.toNat ∧ c.toNat ≤ 122 ∨ 65 ≤ c.toNat ∧ c.toNat ≤ 90 at letter
  have inRanges : CodePointRanges.contains [(97, 122), (65, 90)] c = true := by
    simpa [CodePointRanges.contains, CodePointRanges.containsCodePoint] using letter
  exact CodePointRanges.contains_eq_false_of_apart (by decide) inRanges

/-- A value of the right shape has no white space around it. -/
theorem IsShaped.trim_eq {text : Text} (shaped : IsShaped text) : text.trim = text := by
  obtain ⟨month, day, year, ⟨rfl, _, yearLength⟩, monthLength, letters, _,
    yearDigits⟩ := shaped
  refine Surrounds.trim_eq ⟨[], [], by simp [IsBlank], by simp [IsBlank], by simp,
    ?_, ?_⟩
  · obtain ⟨first, others, rfl⟩ := List.exists_cons_of_length_eq_add_one monthLength
    rw [startsVisible_iff, List.cons_append, stopsRun_cons_iff]
    exact isWhiteSpace_eq_false_of_isAlpha (letters first List.mem_cons_self)
  · have nonempty : year.reverse ≠ [] := by
      rw [ne_eq, List.reverse_eq_nil_iff]
      rintro rfl
      cases yearLength
    have visible : StopsRun isWhiteSpace year.reverse :=
      stopsRun_of_isDecimalDigit fun c member =>
        yearDigits c (List.mem_reverse.mp member)
    rw [endsVisible_iff]
    simpa using visible.append nonempty _

/-! ## Months -/

/-- The English abbreviations of the names of the months. -/
def monthAbbreviation? : Nat → Option Text
  | 1 => some ['J', 'a', 'n']
  | 2 => some ['F', 'e', 'b']
  | 3 => some ['M', 'a', 'r']
  | 4 => some ['A', 'p', 'r']
  | 5 => some ['M', 'a', 'y']
  | 6 => some ['J', 'u', 'n']
  | 7 => some ['J', 'u', 'l']
  | 8 => some ['A', 'u', 'g']
  | 9 => some ['S', 'e', 'p']
  | 10 => some ['O', 'c', 't']
  | 11 => some ['N', 'o', 'v']
  | 12 => some ['D', 'e', 'c']
  | _ => none

/-- A text is the abbreviated name of a month, in small or capital letters. -/
def IsMonthName (name : Text) (month : Nat) : Prop :=
  ∃ abbreviation, monthAbbreviation? month = some abbreviation ∧
    name.map Char.toLower = abbreviation.map Char.toLower

theorem monthNames_eq (index : Nat) :
    monthNames[index]? =
      (monthAbbreviation? (index + 1)).map (List.map Char.toLower) := by
  by_cases inYear : index < 12
  · interval_cases index <;> rfl
  · obtain ⟨later, rfl⟩ := Nat.exists_eq_add_of_le (Nat.le_of_not_lt inYear)
    rw [show 12 + later + 1 = later + 13 by omega,
      List.getElem?_eq_none (Nat.le_add_right 12 later)]
    rfl

theorem findIdx?_monthNames_iff {lowercase : Text} {index : Nat} :
    monthNames.findIdx? (· == lowercase) = some index ↔
      monthNames[index]? = some lowercase := by
  have distinct : monthNames.Nodup := by
    decide
  exact findIdx?_beq_eq_some_iff distinct

/-- The number of a month is read from its name and from nothing else. -/
theorem monthNumber?_eq_some_iff {name : Text} {month : Nat} :
    monthNumber? name = some month ↔ IsMonthName name month := by
  rw [monthNumber?, Option.map_eq_some_iff]
  constructor
  · rintro ⟨index, found, rfl⟩
    rw [findIdx?_monthNames_iff, monthNames_eq, Option.map_eq_some_iff] at found
    obtain ⟨abbreviation, abbreviated, same⟩ := found
    exact ⟨abbreviation, abbreviated, same.symm⟩
  · rintro ⟨abbreviation, abbreviated, same⟩
    cases month with
    | zero =>
        cases abbreviated
    | succ index =>
        refine ⟨index, ?_, rfl⟩
        rw [findIdx?_monthNames_iff, monthNames_eq, abbreviated, same]
        rfl

theorem isAlpha_of_toLower {c : Char} (letter : c.toLower.isAlpha = true) :
    c.isAlpha = true := by
  by_cases upper : 'A' ≤ c ∧ c ≤ 'Z'
  · exact Bool.or_eq_true_iff.mpr (Or.inl (decide_eq_true upper))
  · have same : c.toLower = c := dif_neg upper
    rwa [same] at letter

theorem IsMonthName.letters {name : Text} {month : Nat}
    (named : IsMonthName name month) :
    name.length = 3 ∧ ∀ c ∈ name, c.isAlpha = true := by
  obtain ⟨abbreviation, abbreviated, same⟩ := named
  have known : abbreviation.map Char.toLower ∈ monthNames := by
    cases month with
    | zero =>
        cases abbreviated
    | succ index =>
        have nameAt := monthNames_eq index
        rw [abbreviated, Option.map_some] at nameAt
        exact List.mem_of_getElem? nameAt
  have ofLetters : ∀ name ∈ monthNames,
      name.length = 3 ∧ name.all Char.isAlpha = true := by
    decide
  rw [← same] at known
  obtain ⟨length, letters⟩ := ofLetters _ known
  rw [List.length_map] at length
  refine ⟨length, fun c member => ?_⟩
  exact isAlpha_of_toLower
    (List.all_eq_true.mp letters _ (List.mem_map_of_mem member))

/-! ## Reading -/

/-- A text is a month, a day and a year that write a date in ASCII digits. -/
def Writes (text : Text) (date : CalendarDate) : Prop :=
  ∃ month day year, HasParts text month day year ∧
    IsMonthName month date.month ∧ day.Denotes date.day ∧
    ∃ number : Nat, year.Denotes number ∧ date.year = number

theorem Writes.isShaped {text : Text} {date : CalendarDate}
    (writes : Writes text date) : IsShaped text := by
  obtain ⟨month, day, year, parts, named, dayDenotes, number, yearDenotes, _⟩ := writes
  obtain ⟨length, letters⟩ := named.letters
  exact ⟨month, day, year, parts, length, letters, dayDenotes.isDecimalDigit,
    yearDenotes.isDecimalDigit⟩

theorem exists_digits_of_leadingNumber? {limit number : Nat} {text rest : Text}
    (read : leadingNumber? limit text = some (number, rest)) :
    ∃ digits : Text, text = digits ++ rest ∧ digits ≠ [] ∧ digits.Denotes number := by
  obtain ⟨value, valueRead, pairEq⟩ := Option.map_eq_some_iff.mp read
  obtain ⟨rfl, rfl⟩ := Prod.mk.inj pairEq
  have allDigits : ∀ c ∈ (text.take limit).takeWhile Char.isDigit, c.isDigit = true :=
    fun c member => List.mem_takeWhile_imp member
  obtain ⟨nonempty, denotes⟩ := (readDigits?_eq_some_iff allDigits).mp valueRead
  have leading : (text.take limit).takeWhile Char.isDigit <+: text :=
    (List.takeWhile_prefix _).trans (List.take_prefix limit text)
  exact ⟨_, (List.prefix_iff_eq_append.mp leading).symm, nonempty, denotes⟩

theorem leadingNumber?_append {limit number : Nat} {digits rest : Text}
    (denotes : digits.Denotes number) (nonempty : digits ≠ [])
    (short : digits.length ≤ limit) (stops : StopsRun Char.isDigit rest) :
    leadingNumber? limit (digits ++ rest) = some (number, rest) := by
  have restStops : StopsRun Char.isDigit (rest.take (limit - digits.length)) := by
    rw [← List.take_append_drop (limit - digits.length) rest] at stops
    exact stops.of_append
  have digitsEq : ((digits ++ rest).take limit).takeWhile Char.isDigit = digits := by
    rw [List.take_append, List.take_of_length_le short,
      takeWhile_run_append denotes.1 restStops]
  rw [leadingNumber?, digitsEq, (readDigits?_eq_some_iff denotes.1).mpr ⟨nonempty, denotes⟩,
    List.drop_left]
  rfl

/-- What the year is read from: white space and ASCII digits up to the end. -/
theorem exists_parts_of_readYear {month day : Nat} {text : Text} {date : CalendarDate}
    (read : readYear month day text = .ok date) :
    ∃ (blanks year : Text) (number : Nat), text = blanks ++ year ∧ blanks.IsBlank ∧
      year.Denotes number ∧ date = ⟨number, month, day⟩ ∧ date.IsGregorian := by
  rw [readYear] at read
  split at read
  · cases read
  · next number rest numberRead =>
      obtain ⟨digits, trimmedEq, _, denotes⟩ := exists_digits_of_leadingNumber? numberRead
      split at read
      · cases read
      · next nothingLeft =>
          dsimp only at read
          split at read
          · next isDay =>
              rw [Bool.not_eq_true, Bool.not_eq_false', List.isEmpty_iff] at nothingLeft
              rw [nothingLeft, List.append_nil] at trimmedEq
              refine ⟨text.takeWhile isWhiteSpace, digits, number, ?_,
                isBlank_takeWhile text, denotes, (Except.ok.inj read).symm, ?_⟩
              · rw [← trimmedEq]
                exact List.takeWhile_append_dropWhile.symm
              · rw [← Except.ok.inj read]
                exact isDay_iff.mp isDay
          · cases read

theorem exists_parts_of_readDay {month : Nat} {text : Text} {date : CalendarDate}
    (read : readDay month text = .ok date) :
    ∃ (blanks day rest : Text) (number : Nat), text = blanks ++ (day ++ rest) ∧
      blanks.IsBlank ∧ day ≠ [] ∧ day.Denotes number ∧
      readYear month number rest = .ok date := by
  rw [readDay] at read
  split at read
  · cases read
  · next number rest numberRead =>
      obtain ⟨digits, trimmedEq, nonempty, denotes⟩ :=
        exists_digits_of_leadingNumber? numberRead
      split at read
      · refine ⟨text.takeWhile isWhiteSpace, digits, rest, number, ?_,
          isBlank_takeWhile text, nonempty, denotes, read⟩
        rw [← trimmedEq]
        exact List.takeWhile_append_dropWhile.symm
      · cases read

theorem isDecimalDigit_eq_false_of_isBlank {blanks : Text} (blank : blanks.IsBlank) :
    ∀ c ∈ blanks, isDecimalDigit c = false := by
  intro c member
  rw [← Bool.not_eq_true]
  intro digit
  have visible := isWhiteSpace_eq_false_of_isDecimalDigit digit
  rw [blank c member] at visible
  cases visible

theorem stopsRun_blank_append {blanks : Text} (blank : blanks.IsBlank)
    (nonempty : blanks ≠ []) (rest : Text) :
    StopsRun isDecimalDigit (blanks ++ rest) :=
  (stopsRun_of_outside (isDecimalDigit_eq_false_of_isBlank blank)).append nonempty rest

/-- Digits on both sides of white space can be told from it in one way only. -/
theorem eq_of_around_blanks {left right day year blanks others : Text}
    (leftDigits : ∀ c ∈ left, isDecimalDigit c = true)
    (rightDigits : ∀ c ∈ right, isDecimalDigit c = true)
    (dayDigits : ∀ c ∈ day, isDecimalDigit c = true)
    (yearDigits : ∀ c ∈ year, isDecimalDigit c = true)
    (blank : blanks.IsBlank) (nonempty : blanks ≠ []) (othersBlank : others.IsBlank)
    (same : left ++ (blanks ++ right) = day ++ (others ++ year)) :
    left = day ∧ right = year := by
  have othersNonempty : others ≠ [] := by
    rintro rfl
    -- Then all of it would be digits.
    obtain ⟨c, rest, rfl⟩ := List.exists_cons_of_ne_nil nonempty
    have member : c ∈ day ++ ([] ++ year) := by
      rw [← same]
      simp
    have digit := List.forall_mem_append.mpr ⟨dayDigits, yearDigits⟩ c member
    rw [isDecimalDigit_eq_false_of_isBlank blank c List.mem_cons_self] at digit
    cases digit
  obtain ⟨leftEq, restEq⟩ := run_append_inj leftDigits dayDigits
    (stopsRun_blank_append blank nonempty right)
    (stopsRun_blank_append othersBlank othersNonempty year) same
  obtain ⟨_, rightEq⟩ := run_append_inj blank othersBlank
    (stopsRun_of_isDecimalDigit rightDigits) (stopsRun_of_isDecimalDigit yearDigits)
    restEq
  exact ⟨leftEq, rightEq⟩

theorem isBlank_space : IsBlank [' '] := by
  intro c member
  rw [List.mem_singleton.mp member]
  decide

theorem HasParts.day_ne_nil {text month day year : Text}
    (parts : HasParts text month day year) : day ≠ [] := by
  rintro rfl
  rcases parts.dayLength with one | two
  · cases one
  · cases two

theorem writes_of_read {text : Text} {date : CalendarDate} (shaped : IsShaped text)
    (read : CommitDate.read text = .ok date) : Writes text date ∧ date.IsGregorian := by
  obtain ⟨month, day, year, parts, monthLength, _, dayDigits, yearDigits⟩ := shaped
  rw [CommitDate.read, parts.textEq, List.take_left' monthLength,
    List.drop_left' monthLength] at read
  split at read
  · cases read
  · next number monthRead =>
      obtain ⟨before, readDay, rest, dayNumber, textEq, beforeBlank, nonempty,
        dayDenotes, yearRead⟩ := exists_parts_of_readDay read
      obtain ⟨between, readYear, yearNumber, rfl, betweenBlank, yearDenotes, rfl,
        gregorian⟩ := exists_parts_of_readYear yearRead
      have dayVisible : StopsRun isWhiteSpace (day ++ ' ' :: year) :=
        (stopsRun_of_isDecimalDigit dayDigits).append parts.day_ne_nil _
      have readVisible : StopsRun isWhiteSpace (readDay ++ (between ++ readYear)) :=
        (stopsRun_of_isDecimalDigit dayDenotes.isDecimalDigit).append nonempty _
      obtain ⟨_, afterMonth⟩ :=
        run_append_inj isBlank_space beforeBlank dayVisible readVisible textEq
      obtain ⟨rfl, rfl⟩ := eq_of_around_blanks dayDigits yearDigits
        dayDenotes.isDecimalDigit yearDenotes.isDecimalDigit isBlank_space
        (List.cons_ne_nil _ _) betweenBlank afterMonth
      exact ⟨⟨month, day, year, parts, monthNumber?_eq_some_iff.mp monthRead, dayDenotes,
        yearNumber, yearDenotes, rfl⟩, gregorian⟩

theorem trimStart_space {digits : Text}
    (all : ∀ c ∈ digits, isDecimalDigit c = true) (nonempty : digits ≠ [])
    (rest : Text) : trimStart (' ' :: (digits ++ rest)) = digits ++ rest :=
  trimStart_blank_append isBlank_space
    ((stopsRun_of_isDecimalDigit all).append nonempty rest)

theorem read_of_writes {text : Text} {date : CalendarDate} (writes : Writes text date)
    (gregorian : date.IsGregorian) : CommitDate.read text = .ok date := by
  obtain ⟨month, day, year, parts, named, dayDenotes, number, yearDenotes, yearEq⟩ :=
    writes
  have yearNonempty : year ≠ [] := by
    rintro rfl
    cases parts.yearLength
  have spaceStops : StopsRun Char.isDigit (' ' :: year) :=
    stopsRun_cons_iff.mpr rfl
  have dayShort : day.length ≤ 2 := by
    rcases parts.dayLength with one | two
    · omega
    · omega
  have dayRead : leadingNumber? 2 (day ++ ' ' :: year) = some (date.day, ' ' :: year) :=
    leadingNumber?_append dayDenotes parts.day_ne_nil dayShort spaceStops
  have yearRead : leadingNumber? 4 (year ++ []) = some (number, []) :=
    leadingNumber?_append yearDenotes yearNonempty (by rw [parts.yearLength]) stopsRun_nil
  have yearTrimmed :=
    trimStart_space yearDenotes.isDecimalDigit yearNonempty []
  have dateEq : (⟨number, date.month, date.day⟩ : CalendarDate) = date := by
    rw [← yearEq]
  rw [List.append_nil] at yearRead yearTrimmed
  rw [CommitDate.read, parts.textEq, List.take_left' named.letters.1,
    List.drop_left' named.letters.1, monthNumber?_eq_some_iff.mpr named]
  dsimp only
  rw [readDay, trimStart_space dayDenotes.isDecimalDigit parts.day_ne_nil, dayRead]
  dsimp only
  rw [if_pos gregorian.day, readYear, yearTrimmed, yearRead]
  show (if (⟨number, date.month, date.day⟩ : CalendarDate).isDay then _ else _) = _
  rw [dateEq, if_pos (isDay_iff.mpr gregorian)]

/-! ## Values -/

theorem parse_eq_ok_iff {value : Text} {date : CalendarDate} :
    parse value = .ok date ↔ Writes value.trim date ∧ date.IsGregorian := by
  rw [parse]
  constructor
  · intro parsed
    split at parsed
    · next shaped =>
        rcases read : CommitDate.read value.trim with fault | found
        · rw [read] at parsed
          cases parsed
        · rw [read] at parsed
          cases parsed
          exact writes_of_read (hasShape_iff.mp shaped) read
    · cases parsed
  · rintro ⟨writes, gregorian⟩
    rw [if_pos (hasShape_iff.mpr writes.isShaped), read_of_writes writes gregorian]
    rfl

theorem parse_eq_shape_iff {value : Text} :
    parse value = .error .shape ↔ ¬ IsShaped value.trim := by
  rw [parse, ← hasShape_iff]
  by_cases shaped : hasShape value.trim = true
  · rw [if_pos shaped]
    rcases CommitDate.read value.trim with fault | found <;>
      simp [Except.mapError, shaped]
  · simp [shaped]

/-- A date as a month, a day with leading zeros up to a width, and a year of four
digits. -/
def written (date : CalendarDate) (dayWidth : Nat) : Text :=
  (monthAbbreviation? date.month).getD [] ++ ' ' ::
    ((Text.ofNat date.day).leftpad dayWidth '0' ++ ' ' ::
      (Text.ofNat date.year.toNat).leftpad 4 '0')

theorem isSome_monthAbbreviation? {month : Nat} (inYear : 1 ≤ month ∧ month ≤ 12) :
    ∃ abbreviation, monthAbbreviation? month = some abbreviation := by
  obtain ⟨first, last⟩ := inYear
  interval_cases month <;> exact ⟨_, rfl⟩

theorem writes_written {date : CalendarDate} (gregorian : date.IsGregorian)
    (notBefore : 0 ≤ date.year) (notAfter : date.year ≤ 9999) {dayWidth : Nat}
    (narrow : dayWidth ≤ 2) : Writes (written date dayWidth) date := by
  obtain ⟨abbreviation, abbreviated⟩ := isSome_monthAbbreviation? gregorian.month
  have dayShort : (Text.ofNat date.day).length ≤ 2 :=
    (Nat.length_toDigits_le_iff (by decide) (by decide)).mpr
      (by have := gregorian.day; omega)
  have yearShort : (Text.ofNat date.year.toNat).length ≤ 4 :=
    (Nat.length_toDigits_le_iff (by decide) (by decide)).mpr (by omega)
  have dayNonempty : 0 < (Text.ofNat date.day).length := Nat.length_toDigits_pos
  refine ⟨abbreviation, _, _, ⟨?_, ?_, ?_⟩, ⟨abbreviation, abbreviated, rfl⟩,
    denotes_leftpad dayWidth date.day, date.year.toNat, denotes_leftpad 4 _, ?_⟩
  · rw [written, abbreviated]
    rfl
  · rw [List.length_leftpad]
    omega
  · rw [List.length_leftpad]
    omega
  · omega

/-- A value is accepted exactly if it writes a day of the calendar in ASCII digits,
with nothing but white space around it, and it has the wrong shape exactly if it is
not three letters, a day and a year in digits of any script.  So every date of the
years 0 to 9999 is read back from what is written for it. -/
theorem parse_reads_calendar :
    (∀ value date, parse value = .ok date ↔
      Writes value.trim date ∧ date.IsGregorian) ∧
    (∀ value, parse value = .error .shape ↔ ¬ IsShaped value.trim) ∧
    ∀ date : CalendarDate, date.IsGregorian → 0 ≤ date.year → date.year ≤ 9999 →
      ∀ dayWidth ∈ [1, 2], parse (written date dayWidth) = .ok date := by
  refine ⟨fun value date => parse_eq_ok_iff, fun value => parse_eq_shape_iff, ?_⟩
  intro date gregorian notBefore notAfter dayWidth member
  have narrow : dayWidth ≤ 2 := by
    simp only [List.mem_cons, List.not_mem_nil, or_false] at member
    omega
  have writes := writes_written gregorian notBefore notAfter narrow
  rw [parse_eq_ok_iff, writes.isShaped.trim_eq]
  exact ⟨writes, gregorian⟩

/-- The leap day of an early year. -/
theorem parse_reads_calendar_leap_day :
    IsGregorian ⟨4, 2, 29⟩ ∧
    written ⟨4, 2, 29⟩ 1 =
      ['F', 'e', 'b', ' ', '2', '9', ' ', '0', '0', '0', '4'] ∧
    parse (written ⟨4, 2, 29⟩ 1) = .ok ⟨4, 2, 29⟩ := by
  have gregorian : IsGregorian ⟨4, 2, 29⟩ :=
    isDay_iff.mp (by decide)
  refine ⟨gregorian, by decide, ?_⟩
  obtain ⟨_, _, readBack⟩ := parse_reads_calendar
  exact readBack ⟨4, 2, 29⟩ gregorian (by decide) (by decide) 1 (by decide)

end CommitDate

end Marginalia
