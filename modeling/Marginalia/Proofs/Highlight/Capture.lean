import Marginalia.Highlight.Class
import Marginalia.Proofs.Text.Run

/-!
# The nearest known capture

A capture is included in itself and in what stands before each of its dots.  The
captures that include it are listed from the longest to the shortest, and the first
known one among them gives the class.
-/

namespace Marginalia.Highlight

/-- The captures that have a class of their own, in the order of the classes. -/
def captures : List Text := classes.map Prod.fst

/-- A capture is another one, or stands before one of its dots. -/
def Includes (general capture : Text) : Prop :=
  capture = general ∨ ∃ special, capture = general ++ '.' :: special

/-- The longest known capture that includes a capture. -/
structure IsNearest (nearest capture : Text) : Prop where
  known : nearest ∈ captures
  including : Includes nearest capture
  longest : ∀ other ∈ captures, Includes other capture →
    other.length ≤ nearest.length

/-! ## The captures that include a capture -/

theorem mem_cutsFrom_iff {before text cut : Text} :
    cut ∈ ancestors.cutsFrom before text ↔
      ∃ passed rest, text = passed ++ '.' :: rest ∧
        cut = before.reverse ++ passed := by
  induction text generalizing before with
  | nil =>
      simp [ancestors.cutsFrom]
  | cons c text inductionHypothesis =>
      -- A cut after the first character is a cut of the rest.
      have later :
          cut ∈ ancestors.cutsFrom (c :: before) text ↔
            ∃ passed rest, text = passed ++ '.' :: rest ∧
              cut = before.reverse ++ c :: passed := by
        rw [inductionHypothesis]
        simp only [List.reverse_cons, List.append_assoc, List.singleton_append]
      by_cases dot : c = '.'
      · subst c
        rw [ancestors.cutsFrom, if_pos rfl, List.mem_cons, later]
        constructor
        · rintro (rfl | ⟨passed, rest, rfl, rfl⟩)
          · exact ⟨[], text, rfl, by rw [List.append_nil]⟩
          · exact ⟨'.' :: passed, rest, rfl, rfl⟩
        · rintro ⟨passed, rest, textEq, rfl⟩
          cases passed with
          | nil =>
              exact Or.inl (List.append_nil _)
          | cons first passed =>
              obtain ⟨rfl, restEq⟩ := List.cons.inj textEq
              exact Or.inr ⟨passed, rest, restEq, rfl⟩
      · rw [ancestors.cutsFrom, if_neg dot, later]
        constructor
        · rintro ⟨passed, rest, rfl, rfl⟩
          exact ⟨c :: passed, rest, rfl, rfl⟩
        · rintro ⟨passed, rest, textEq, rfl⟩
          cases passed with
          | nil =>
              exact absurd (List.cons.inj textEq).1 dot
          | cons first passed =>
              obtain ⟨rfl, restEq⟩ := List.cons.inj textEq
              exact ⟨passed, rest, restEq, rfl⟩

@[simp]
theorem mem_ancestors_iff {general capture : Text} :
    general ∈ ancestors capture ↔ Includes general capture := by
  have cuts :
      general ∈ ancestors.cutsFrom [] capture ↔
        ∃ special, capture = general ++ '.' :: special := by
    rw [mem_cutsFrom_iff]
    constructor
    · rintro ⟨passed, rest, captureEq, rfl⟩
      exact ⟨rest, captureEq⟩
    · rintro ⟨special, captureEq⟩
      exact ⟨general, special, captureEq, rfl⟩
  rw [ancestors, List.mem_cons, List.mem_reverse, cuts, Includes]
  exact or_congr_left eq_comm

theorem length_le_of_mem_cutsFrom {before text cut : Text}
    (member : cut ∈ ancestors.cutsFrom before text) :
    before.length ≤ cut.length ∧ cut.length < before.length + text.length := by
  obtain ⟨passed, rest, rfl, rfl⟩ := mem_cutsFrom_iff.mp member
  simp only [List.length_append, List.length_reverse, List.length_cons]
  omega

theorem pairwise_cutsFrom (before text : Text) :
    (ancestors.cutsFrom before text).Pairwise fun shorter longer =>
      shorter.length < longer.length := by
  induction text generalizing before with
  | nil =>
      exact List.Pairwise.nil
  | cons c text inductionHypothesis =>
      have later := inductionHypothesis (c :: before)
      by_cases dot : c = '.'
      · rw [ancestors.cutsFrom, if_pos dot]
        apply List.Pairwise.cons _ later
        intro cut member
        have longer := (length_le_of_mem_cutsFrom member).1
        rw [List.length_cons] at longer
        rw [List.length_reverse]
        omega
      · rw [ancestors.cutsFrom, if_neg dot]
        exact later

/-- The captures that include a capture are listed from the longest on. -/
theorem pairwise_ancestors (capture : Text) :
    (ancestors capture).Pairwise fun longer shorter =>
      shorter.length < longer.length := by
  apply List.Pairwise.cons
  · intro cut member
    have shorter :=
      (length_le_of_mem_cutsFrom (List.mem_reverse.mp member)).2
    simpa using shorter
  · rw [List.pairwise_reverse]
    exact pairwise_cutsFrom [] capture

/-! ## Rows of the table -/

theorem rowOf?_eq_some_iff {capture : Text} {number : Nat} :
    rowOf? capture = some number ↔ captures[number]? = some capture := by
  have distinct : captures.Nodup := by
    decide
  have asSearch : rowOf? capture = captures.findIdx? (· == capture) := by
    rw [captures, List.findIdx?_map]
    rfl
  rw [asSearch]
  exact findIdx?_beq_eq_some_iff distinct

theorem exists_rowOf?_iff {capture : Text} :
    (∃ number, rowOf? capture = some number) ↔ capture ∈ captures := by
  rw [List.mem_iff_getElem?]
  exact exists_congr fun number => rowOf?_eq_some_iff

/-- A row has the class of its number. -/
theorem className_eq {capture name : Text} {number : Nat}
    (row : classes[number]? = some (capture, name)) :
    className number = name := by
  rw [className, row]

theorem getElem?_captures_iff {capture : Text} {number : Nat} :
    captures[number]? = some capture ↔
      ∃ name, classes[number]? = some (capture, name) := by
  rw [captures, List.getElem?_map, Option.map_eq_some_iff]
  constructor
  · rintro ⟨⟨capture', name⟩, row, rfl⟩
    exact ⟨name, row⟩
  · rintro ⟨name, row⟩
    exact ⟨(capture, name), row, rfl⟩

/-! ## The nearest one -/

theorem IsNearest.unique {nearest nearest' capture : Text}
    (isNearest : IsNearest nearest capture)
    (isNearest' : IsNearest nearest' capture) :
    nearest = nearest' := by
  have sameLength : nearest.length = nearest'.length :=
    Nat.le_antisymm
      (isNearest'.longest nearest isNearest.known isNearest.including)
      (isNearest.longest nearest' isNearest'.known isNearest'.including)
  have leading : ∀ {general}, Includes general capture → general <+: capture := by
    rintro general (rfl | ⟨special, rfl⟩)
    · exact List.prefix_rfl
    · exact List.prefix_append _ _
  have shorter : nearest <+: nearest' :=
    List.prefix_of_prefix_length_le (leading isNearest.including)
      (leading isNearest'.including) (Nat.le_of_eq sameLength)
  exact shorter.eq_of_length sameLength

/-- The search stops at the longest known capture. -/
theorem classNumber?_sound {capture : Text} {number : Nat}
    (found : classNumber? capture = some number) :
    ∃ nearest, IsNearest nearest capture ∧
      captures[number]? = some nearest := by
  obtain ⟨passed, nearest, rest, listed, row, unknown⟩ :=
    List.findSome?_eq_some_iff.mp found
  have ordered := pairwise_ancestors capture
  rw [listed, List.pairwise_append, List.pairwise_cons] at ordered
  have place : captures[number]? = some nearest := rowOf?_eq_some_iff.mp row
  have listedNearest : nearest ∈ ancestors capture := by
    rw [listed]
    simp
  refine ⟨nearest, ⟨List.mem_of_getElem? place,
    mem_ancestors_iff.mp listedNearest, ?_⟩, place⟩
  intro other known including
  have listedOther : other ∈ passed ++ nearest :: rest := by
    rw [← listed]
    exact mem_ancestors_iff.mpr including
  rcases List.mem_append.mp listedOther with early | late
  · -- What the search has passed is not known.
    obtain ⟨otherNumber, otherRow⟩ := exists_rowOf?_iff.mpr known
    rw [unknown other early] at otherRow
    cases otherRow
  · rcases List.mem_cons.mp late with rfl | shorter
    · exact Nat.le_refl _
    · exact Nat.le_of_lt (ordered.2.1.1 other shorter)

theorem exists_classNumber?_iff {capture : Text} :
    (∃ number, classNumber? capture = some number) ↔
      ∃ known ∈ captures, Includes known capture := by
  have search :
      (∃ number, classNumber? capture = some number) ↔
        ∃ general ∈ ancestors capture, (rowOf? general).isSome = true := by
    rw [← Option.isSome_iff_exists, classNumber?, List.findSome?_isSome_iff]
  rw [search]
  constructor
  · rintro ⟨general, listed, row⟩
    exact ⟨general, exists_rowOf?_iff.mp (Option.isSome_iff_exists.mp row),
      mem_ancestors_iff.mp listed⟩
  · rintro ⟨known, member, including⟩
    exact ⟨known, mem_ancestors_iff.mpr including,
      Option.isSome_iff_exists.mpr (exists_rowOf?_iff.mpr member)⟩

theorem classNumber?_eq_some_iff {capture : Text} {number : Nat} :
    classNumber? capture = some number ↔
      ∃ nearest, IsNearest nearest capture ∧
        captures[number]? = some nearest := by
  constructor
  · exact classNumber?_sound
  · rintro ⟨nearest, isNearest, place⟩
    obtain ⟨number', found⟩ :=
      exists_classNumber?_iff.mpr
        ⟨nearest, isNearest.known, isNearest.including⟩
    obtain ⟨nearest', isNearest', place'⟩ := classNumber?_sound found
    have same : nearest' = nearest := isNearest'.unique isNearest
    rw [same] at place'
    have row := rowOf?_eq_some_iff.mpr place
    have row' := rowOf?_eq_some_iff.mpr place'
    rw [found, ← row', row]

theorem classOfCapture?_eq_some_iff {capture name : Text} :
    classOfCapture? capture = some name ↔
      ∃ nearest, IsNearest nearest capture ∧ (nearest, name) ∈ classes := by
  rw [classOfCapture?, Option.map_eq_some_iff]
  constructor
  · rintro ⟨number, found, rfl⟩
    obtain ⟨nearest, isNearest, place⟩ := classNumber?_eq_some_iff.mp found
    obtain ⟨name, row⟩ := getElem?_captures_iff.mp place
    refine ⟨nearest, isNearest, ?_⟩
    rw [className_eq row]
    exact List.mem_of_getElem? row
  · rintro ⟨nearest, isNearest, member⟩
    obtain ⟨number, row⟩ := List.mem_iff_getElem?.mp member
    have place := getElem?_captures_iff.mpr ⟨name, row⟩
    exact ⟨number, classNumber?_eq_some_iff.mpr ⟨nearest, isNearest, place⟩,
      className_eq row⟩

/-- The number found for a capture is the place of the longest known capture that
includes it, and there is one exactly if some known capture does.  So every special
form of a known capture has a class: that of the nearest known capture, which is at
least as long. -/
theorem classNumber?_finds_nearest :
    (∀ capture number, classNumber? capture = some number ↔
      ∃ nearest, IsNearest nearest capture ∧
        captures[number]? = some nearest) ∧
    (∀ capture, (∃ number, classNumber? capture = some number) ↔
      ∃ known ∈ captures, Includes known capture) ∧
    (∀ capture name, classOfCapture? capture = some name ↔
      ∃ nearest, IsNearest nearest capture ∧ (nearest, name) ∈ classes) ∧
    ∀ known ∈ captures, ∀ special, ∃ nearest name,
      classOfCapture? (known ++ '.' :: special) = some name ∧
      IsNearest nearest (known ++ '.' :: special) ∧
      (nearest, name) ∈ classes ∧ known.length ≤ nearest.length := by
  refine ⟨fun _ _ => classNumber?_eq_some_iff, fun _ => exists_classNumber?_iff,
    fun _ _ => classOfCapture?_eq_some_iff, ?_⟩
  intro known member special
  have including : Includes known (known ++ '.' :: special) :=
    Or.inr ⟨special, rfl⟩
  obtain ⟨number, found⟩ :=
    exists_classNumber?_iff.mpr ⟨known, member, including⟩
  have classFound :
      classOfCapture? (known ++ '.' :: special) = some (className number) := by
    rw [classOfCapture?, found, Option.map_some]
  obtain ⟨nearest, isNearest, row⟩ := classOfCapture?_eq_some_iff.mp classFound
  exact ⟨nearest, className number, classFound, isNearest, row,
    isNearest.longest known member including⟩

/-- The operators among the keywords have a class of their own, and so do their
special forms, one of them with an empty part. -/
theorem classNumber?_finds_nearest_operator :
    ("keyword.operator" : Text) ∈ captures ∧
    ∃ nearest name,
      classOfCapture? "keyword.operator..logical" = some name ∧
      IsNearest nearest "keyword.operator..logical" ∧
      (nearest, name) ∈ classes ∧
      ("keyword.operator" : Text).length ≤ nearest.length := by
  have member : ("keyword.operator" : Text) ∈ captures := by
    decide
  exact ⟨member,
    classNumber?_finds_nearest.2.2.2 "keyword.operator" member ".logical"⟩

end Marginalia.Highlight
