import Marginalia.Html.Escape
import Mathlib.Data.Bool.AllAny
import Mathlib.Data.List.Infix

/-!
# Cuts of escaped text

Escaped text has no character that is significant in HTML except the ampersands
that start its entities, and it can be read back.  A cut of it falls between the
escaped forms of two characters or inside an entity.
-/

namespace Marginalia.Html

/-- The entities that escaping writes. -/
def entities : List Text :=
  [['&', 'a', 'm', 'p', ';'], ['&', 'l', 't', ';'], ['&', 'g', 't', ';'],
   ['&', 'q', 'u', 'o', 't', ';'], ['&', '#', '3', '9', ';']]

/-- The characters that delimit tags and quoted values. -/
def delimiters : List Char := ['<', '>', '"', '\'']

/-- An entity is cut into two parts, neither of them empty. -/
def CutsEntity (head rest : Text) : Prop :=
  head ++ rest ∈ entities ∧ head ≠ [] ∧ rest ≠ []

/-! ## Single characters -/

theorem escapeChar_eq (c : Char) :
    (escapeChar c = [c] ∧ c ∉ ['&', '<', '>', '"', '\'']) ∨
      escapeChar c ∈ entities := by
  -- Decided through `List.all`, which looks at the listed characters only.
  have escaped :
      ∀ c ∈ ['&', '<', '>', '"', '\''], escapeChar c ∈ entities :=
    List.all_iff_forall_prop.mp (by decide)
  by_cases significant : c ∈ ['&', '<', '>', '"', '\'']
  · right
    exact escaped c significant
  · left
    refine ⟨?_, significant⟩
    simp only [List.mem_cons, List.not_mem_nil, or_false, not_or] at significant
    simp [escapeChar, significant]

theorem exists_escapeChar_eq {entity : Text} (known : entity ∈ entities) :
    ∃ c, escapeChar c = entity := by
  simp only [entities, List.mem_cons, List.not_mem_nil, or_false] at known
  rcases known with rfl | rfl | rfl | rfl | rfl
  · exact ⟨'&', rfl⟩
  · exact ⟨'<', rfl⟩
  · exact ⟨'>', rfl⟩
  · exact ⟨'"', rfl⟩
  · exact ⟨'\'', rfl⟩

/-- A character of an escaped character is the character itself or belongs to
an entity. -/
theorem mem_escapeChar {c d : Char} (member : d ∈ escapeChar c) :
    (d = c ∧ c ∉ ['&', '<', '>', '"', '\'']) ∨
      ∃ entity ∈ entities, d ∈ entity := by
  rcases escapeChar_eq c with ⟨plain, quiet⟩ | entity
  · rw [plain, List.mem_singleton] at member
    exact Or.inl ⟨member, quiet⟩
  · exact Or.inr ⟨escapeChar c, entity, member⟩

/-! ## Whole texts -/

@[simp]
theorem escape_append (left right : Text) :
    escape (left ++ right) = escape left ++ escape right :=
  List.flatMap_append

@[simp]
theorem escape_cons (c : Char) (text : Text) :
    escape (c :: text) = escapeChar c ++ escape text :=
  List.flatMap_cons

theorem escape_singleton (c : Char) : escape [c] = escapeChar c := by
  simp [escape]

theorem escape_eq_self {text : Text}
    (quiet : ∀ c ∈ text, c ∉ ['&', '<', '>', '"', '\'']) :
    escape text = text := by
  induction text with
  | nil =>
      rfl
  | cons c text inductionHypothesis =>
      have quietHere := quiet c List.mem_cons_self
      have rest :=
        inductionHypothesis fun d member => quiet d (List.mem_cons_of_mem c member)
      simp only [List.mem_cons, List.not_mem_nil, or_false, not_or] at quietHere
      have plain : escapeChar c = [c] := by
        simp [escapeChar, quietHere]
      rw [escape_cons, plain, List.singleton_append, rest]

/-- The characters that end a text or a tag do not occur in escaped text. -/
theorem not_mem_escape_of_significant {d : Char} (text : Text)
    (significant : d ∈ delimiters) : d ∉ escape text := by
  intro member
  obtain ⟨c, _, inner⟩ := List.mem_flatMap.mp member
  have escaped : delimiters ⊆ ['&', '<', '>', '"', '\''] := by
    decide
  have foreign : ∀ d ∈ delimiters, ∀ entity ∈ entities, d ∉ entity :=
    List.all_iff_forall_prop.mp (by decide)
  rcases mem_escapeChar inner with ⟨rfl, quiet⟩ | ⟨entity, known, inEntity⟩
  · exact quiet (escaped significant)
  · exact foreign d significant entity known inEntity

/-- A character that occurs in no entity occurs in escaped text only where it
occurs in the text. -/
theorem not_mem_escape_of_not_mem {d : Char} {text : Text}
    (foreign : ∀ entity ∈ entities, d ∉ entity) (absent : d ∉ text) :
    d ∉ escape text := by
  intro member
  obtain ⟨c, inText, inner⟩ := List.mem_flatMap.mp member
  rcases mem_escapeChar inner with ⟨rfl, _⟩ | ⟨entity, known, inEntity⟩
  · exact absent inText
  · exact foreign entity known inEntity

theorem lineFeed_not_mem_escape {text : Text} (absent : '\n' ∉ text) :
    '\n' ∉ escape text :=
  not_mem_escape_of_not_mem (by decide) absent

theorem unescape_cons {c : Char} (plain : c ≠ '&') (rest : Text) :
    unescape (c :: rest) = c :: unescape rest := by
  conv_lhs => unfold unescape
  split <;> simp_all

@[simp]
theorem unescape_escapeChar_append (c : Char) (rest : Text) :
    unescape (escapeChar c ++ rest) = c :: unescape rest := by
  by_cases significant : c ∈ ['&', '<', '>', '"', '\'']
  · simp only [List.mem_cons, List.not_mem_nil, or_false] at significant
    rcases significant with rfl | rfl | rfl | rfl | rfl <;> rfl
  · rcases escapeChar_eq c with ⟨plain, quiet⟩ | entity
    · rw [plain, List.singleton_append,
        unescape_cons (fun same => quiet (by simp [same]))]
    · simp only [List.mem_cons, List.not_mem_nil, or_false, not_or]
        at significant
      simp [escapeChar, significant, unescape_cons]

/-- Reading entities back undoes escaping, whatever follows. -/
@[simp]
theorem unescape_escape_append (text rest : Text) :
    unescape (escape text ++ rest) = text ++ unescape rest := by
  induction text with
  | nil =>
      rfl
  | cons c text inductionHypothesis =>
      rw [escape_cons, List.append_assoc, unescape_escapeChar_append,
        inductionHypothesis, List.cons_append]

@[simp]
theorem unescape_escape (text : Text) : unescape (escape text) = text := by
  simpa [unescape] using unescape_escape_append text []

/-- Escaping keeps the order of prefixes and adds none. -/
@[simp]
theorem escape_prefix_iff {left right : Text} :
    escape left <+: escape right ↔ left <+: right := by
  constructor
  · rintro ⟨rest, whole⟩
    have readBack := congrArg unescape whole
    rw [unescape_escape_append, unescape_escape] at readBack
    exact ⟨unescape rest, readBack⟩
  · rintro ⟨rest, rfl⟩
    rw [escape_append]
    exact List.prefix_append _ _

/-! ## Cuts -/

/-- Only the first character of an entity is significant in HTML. -/
theorem CutsEntity.quiet {head rest : Text} (cuts : CutsEntity head rest) :
    ∀ c ∈ rest, c ∉ ['&', '<', '>', '"', '\''] := by
  obtain ⟨isEntity, nonempty, _⟩ := cuts
  obtain ⟨first, others, rfl⟩ := List.exists_cons_of_ne_nil nonempty
  have quiet :
      ∀ entity ∈ entities,
        entity.tail.all (· ∉ ['&', '<', '>', '"', '\'']) = true := by
    decide
  intro c member
  exact List.all_iff_forall_prop.mp (quiet _ isEntity) c
    (List.mem_append_right others member)

/-- A cut of escaped text is the escaped form of a cut, or it cuts an
entity. -/
theorem escape_eq_append {text left right : Text}
    (whole : escape text = left ++ right) :
    (∃ before after, text = before ++ after ∧
      left = escape before ∧ right = escape after) ∨
    (∃ before c after head rest, text = before ++ c :: after ∧
      left = escape before ++ head ∧ right = rest ++ escape after ∧
        CutsEntity head rest) := by
  induction text generalizing left with
  | nil =>
      obtain ⟨rfl, rfl⟩ := List.append_eq_nil_iff.mp whole.symm
      exact Or.inl ⟨[], [], rfl, rfl, rfl⟩
  | cons c text inductionHypothesis =>
      rw [escape_cons] at whole
      rcases List.append_eq_append_iff.mp whole with
        ⟨left', rfl, inside⟩ | ⟨rest, cut, rfl⟩
      · rcases inductionHypothesis inside with
          ⟨before, after, rfl, rfl, rfl⟩ |
          ⟨before, d, after, head, rest, rfl, rfl, rfl, cuts⟩
        · exact Or.inl ⟨c :: before, after, rfl, by rw [escape_cons], rfl⟩
        · exact Or.inr ⟨c :: before, d, after, head, rest, rfl,
            by rw [escape_cons, List.append_assoc], rfl, cuts⟩
      · -- The cut falls before, inside or after the first character.
        by_cases atStart : left = []
        · subst left
          refine Or.inl ⟨[], c :: text, rfl, rfl, ?_⟩
          rw [escape_cons, cut, List.nil_append]
        by_cases atEnd : rest = []
        · subst rest
          refine Or.inl ⟨[c], text, rfl, ?_, rfl⟩
          rw [escape_singleton, cut, List.append_nil]
        refine Or.inr ⟨[], c, text, left, rest, rfl, rfl, rfl, ?_,
          atStart, atEnd⟩
        rcases escapeChar_eq c with ⟨plain, _⟩ | entity
        · rw [plain] at cut
          rcases List.append_eq_singleton_iff.mp cut.symm with
            ⟨empty, _⟩ | ⟨_, empty⟩
          · exact absurd empty atStart
          · exact absurd empty atEnd
        · rwa [← cut]

/-! ## Safe and readable output -/

/-- An ampersand of escaped text starts an entity. -/
theorem exists_entity_of_ampersand {text before after : Text}
    (whole : escape text = before ++ '&' :: after) :
    ∃ entity ∈ entities, entity <+: '&' :: after := by
  rcases escape_eq_append whole with
    ⟨_, rest, _, _, restEq⟩ | ⟨_, _, _, head, rest, _, _, restEq, cuts⟩
  · -- The ampersand starts the escaped form of a character.
    cases rest with
    | nil =>
        cases restEq
    | cons c rest =>
        rw [escape_cons] at restEq
        rcases escapeChar_eq c with ⟨plain, quiet⟩ | entity
        · rw [plain, List.singleton_append] at restEq
          obtain ⟨rfl, _⟩ := List.cons.inj restEq
          exact absurd List.mem_cons_self quiet
        · refine ⟨escapeChar c, entity, ?_⟩
          rw [restEq]
          exact List.prefix_append _ _
  · -- No ampersand stands inside an entity.
    obtain ⟨first, others, rfl⟩ := List.exists_cons_of_ne_nil cuts.2.2
    obtain ⟨rfl, _⟩ := List.cons.inj restEq
    exact absurd List.mem_cons_self (cuts.quiet '&' List.mem_cons_self)

@[simp]
theorem appendEscaped_eq (html text : Text) :
    appendEscaped html text = html ++ escape text := by
  have grown :
      ∀ start : Text,
        text.foldl (fun grown c => (escapeChar c).reverse ++ grown) start =
          (escape text).reverse ++ start := by
    induction text with
    | nil =>
        intro start
        rfl
    | cons c text inductionHypothesis =>
        intro start
        rw [List.foldl_cons, inductionHypothesis, escape_cons,
          List.reverse_append, List.append_assoc]
  rw [appendEscaped, grown, List.reverse_append, List.reverse_reverse,
    List.reverse_reverse]

theorem escape_injective : Function.Injective escape := by
  intro left right same
  have readBack := congrArg unescape same
  rwa [unescape_escape, unescape_escape] at readBack

/-- Escaping goes through a text character by character and adds to what is there.
Its output has no delimiter, and an ampersand only where an entity starts.  Reading
the entities back from left to right gives the text, so that no two texts are
escaped alike. -/
theorem escape_safe_and_readable :
    (∀ left right, escape (left ++ right) = escape left ++ escape right) ∧
    (∀ html text, appendEscaped html text = html ++ escape text) ∧
    (∀ text, ∀ c ∈ ['<', '>', '"', '\''], c ∉ escape text) ∧
    (∀ text before after, escape text = before ++ '&' :: after →
      ∃ entity ∈ (["&amp;", "&lt;", "&gt;", "&quot;", "&#39;"] : List String),
        entity.toList <+: '&' :: after) ∧
    (∀ text, unescape (escape text) = text) ∧
    Function.Injective escape := by
  refine ⟨escape_append, appendEscaped_eq, ?_, ?_, unescape_escape,
    escape_injective⟩
  · intro text c significant
    exact not_mem_escape_of_significant text significant
  · intro text before after whole
    have written :
        entities =
          ["&amp;", "&lt;", "&gt;", "&quot;", "&#39;"].map String.toList := by
      decide
    obtain ⟨entity, known, leading⟩ := exists_entity_of_ampersand whole
    rw [written] at known
    obtain ⟨name, listed, rfl⟩ := List.mem_map.mp known
    exact ⟨name, listed, leading⟩

/-- A text that starts with an entity and ends in a part of one. -/
theorem escape_safe_and_readable_entity :
    escape "&lt;'&am" = ("&amp;lt;&#39;" : Text) ++ '&' :: "amp;am" ∧
    (∃ entity ∈ (["&amp;", "&lt;", "&gt;", "&quot;", "&#39;"] : List String),
      entity.toList <+: '&' :: "amp;am") ∧
    unescape (escape "&lt;'&am") = "&lt;'&am" := by
  have whole :
      escape "&lt;'&am" = ("&amp;lt;&#39;" : Text) ++ '&' :: "amp;am" := by
    decide
  exact ⟨whole,
    escape_safe_and_readable.2.2.2.1 "&lt;'&am" "&amp;lt;&#39;" "amp;am" whole,
    escape_safe_and_readable.2.2.2.2.1 "&lt;'&am"⟩

end Marginalia.Html
