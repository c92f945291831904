import Marginalia.Html.Escape
import Marginalia.Proofs.Html.Escape
import Marginalia.Proofs.Text.Piece

/-!
# Links in HTML

The links of a page are read from its text.  A link stands after an opening mark
and ends at the next quotation mark, and it is escaped.  The markup between two
links is passed over if the mark cannot start in it, and escaped values are always
passed over.
-/

namespace Marginalia.Html

/-- The links that follow an opening mark, in order. -/
def linksAfter (mark : Text) : Text → List Text
  | [] => []
  | c :: rest =>
      match Text.after? mark (c :: rest) with
      | some opened =>
          unescape (opened.takeWhile (· ≠ '"')) :: linksAfter mark rest
      | none => linksAfter mark rest

/-- The text in front of the first place of a mark. -/
def frontOf (mark : Text) : Text → Text
  | [] => []
  | c :: rest =>
      if Text.startsWith (c :: rest) mark then [] else c :: frontOf mark rest

/-! ## Texts without a mark -/

/-- No mark starts in the text, whatever follows it. -/
def FreeOf (mark text : Text) : Prop :=
  ∀ ending ∈ text.tails, ending ≠ [] → ¬ ending <+: mark ∧ ¬ mark <+: ending

variable {mark : Text}

@[simp]
theorem freeOf_nil (mark : Text) : FreeOf mark [] := by
  simp [FreeOf]

theorem freeOf_cons_iff {c : Char} {text : Text} :
    FreeOf mark (c :: text) ↔
      (¬ c :: text <+: mark ∧ ¬ mark <+: c :: text) ∧ FreeOf mark text := by
  simp [FreeOf]

instance decidableFreeOf (mark : Text) : (text : Text) → Decidable (FreeOf mark text)
  | [] => isTrue (freeOf_nil mark)
  | _ :: text =>
      have := decidableFreeOf mark text
      decidable_of_iff' _ freeOf_cons_iff

/-- Where no mark starts, none starts if something follows. -/
theorem FreeOf.not_prefix {c : Char} {text : Text} (free : FreeOf mark (c :: text))
    (rest : Text) : ¬ mark <+: c :: (text ++ rest) := by
  obtain ⟨⟨notShorter, notLonger⟩, _⟩ := freeOf_cons_iff.mp free
  intro leading
  rcases List.prefix_or_prefix_of_prefix leading
      (List.prefix_append (c :: text) rest) with short | long
  · exact notLonger short
  · exact notShorter long

theorem FreeOf.append {left right : Text} (first : FreeOf mark left)
    (second : FreeOf mark right) : FreeOf mark (left ++ right) := by
  induction left with
  | nil =>
      exact second
  | cons c left inductionHypothesis =>
      obtain ⟨⟨notShorter, _⟩, later⟩ := freeOf_cons_iff.mp first
      rw [List.cons_append, freeOf_cons_iff]
      refine ⟨⟨fun short => notShorter ?_, first.not_prefix right⟩,
        inductionHypothesis later⟩
      exact (List.prefix_append (c :: left) right).trans short

/-- A mark starts a tag, and it does not start again in itself. -/
structure IsMark (mark : Text) : Prop where
  opens : mark.head? = some '<'
  onlyAtStart : FreeOf mark mark.tail

theorem IsMark.eq_cons (isMark : IsMark mark) : mark = '<' :: mark.tail :=
  List.eq_cons_of_mem_head? isMark.opens

theorem IsMark.freeOf (isMark : IsMark mark) {text : Text} (absent : '<' ∉ text) :
    FreeOf mark text := by
  induction text with
  | nil =>
      exact freeOf_nil mark
  | cons c text inductionHypothesis =>
      rw [List.mem_cons, not_or] at absent
      refine freeOf_cons_iff.mpr ⟨?_, inductionHypothesis absent.2⟩
      rw [isMark.eq_cons, List.cons_prefix_cons, List.cons_prefix_cons]
      exact ⟨fun same => absent.1 same.1.symm, fun same => absent.1 same.1⟩

theorem IsMark.freeOf_escape (isMark : IsMark mark) (text : Text) :
    FreeOf mark (escape text) :=
  isMark.freeOf (not_mem_escape_of_significant text (by decide))

@[simp]
theorem render_append (left right : List Piece) :
    render (left ++ right) = render left ++ render right :=
  List.flatMap_append

/-! ## Literals

The characters of a literal are found by unification, with `rfl` for how it is
spelled.  To compute them would take long. -/

theorem toList_literal {literal : String} {chars : Text}
    (spelled : literal = String.ofList chars) : literal.toList = chars := by
  rw [spelled, String.toList_ofList]

theorem toList_literal_append {left right whole : String} {front back : Text}
    (leftSpelled : left = String.ofList front)
    (rightSpelled : right = String.ofList back)
    (wholeSpelled : whole = String.ofList (front ++ back)) :
    whole.toList = left.toList ++ right.toList := by
  rw [toList_literal leftSpelled, toList_literal rightSpelled,
    toList_literal wholeSpelled]

theorem IsMark.of_literal {literal : String} {chars : Text}
    (spelled : literal = String.ofList chars) (isMark : IsMark chars) :
    IsMark literal.toList := by
  rwa [toList_literal spelled]

theorem freeOf_literal {literal : String} {chars : Text}
    (spelled : literal = String.ofList chars) (free : FreeOf mark chars) :
    FreeOf mark literal.toList := by
  rwa [toList_literal spelled]

theorem freeOf_markup {literal : String} {chars : Text} {pieces : List Piece}
    (spelled : literal = String.ofList chars) (free : FreeOf mark chars)
    (rest : FreeOf mark (render pieces)) :
    FreeOf mark (render (.markup literal.toList :: pieces)) :=
  (freeOf_literal spelled free).append rest

theorem IsMark.freeOf_value (isMark : IsMark mark) {pieces : List Piece}
    (text : Text) (rest : FreeOf mark (render pieces)) :
    FreeOf mark (render (.value text :: pieces)) :=
  (isMark.freeOf_escape text).append rest

/-! ## Passing over a text -/

theorem linksAfter_append {text : Text} (free : FreeOf mark text) (rest : Text) :
    linksAfter mark (text ++ rest) = linksAfter mark rest := by
  induction text with
  | nil =>
      rfl
  | cons c text inductionHypothesis =>
      have notHere : Text.after? mark (c :: (text ++ rest)) = none :=
        Text.after?_eq_none_iff.mpr (free.not_prefix rest)
      rw [List.cons_append, linksAfter, notHere]
      exact inductionHypothesis (freeOf_cons_iff.mp free).2

theorem linksAfter_eq_nil {text : Text} (free : FreeOf mark text) :
    linksAfter mark text = [] := by
  rw [← List.append_nil text, linksAfter_append free, linksAfter]

theorem frontOf_append {text : Text} (free : FreeOf mark text) (rest : Text) :
    frontOf mark (text ++ rest) = text ++ frontOf mark rest := by
  induction text with
  | nil =>
      rfl
  | cons c text inductionHypothesis =>
      have notHere : Text.startsWith (c :: (text ++ rest)) mark = false := by
        rw [← Bool.not_eq_true, Text.startsWith_iff]
        exact free.not_prefix rest
      rw [List.cons_append, frontOf, notHere,
        inductionHypothesis (freeOf_cons_iff.mp free).2]
      rfl

theorem IsMark.frontOf_append_mark (isMark : IsMark mark) {text : Text}
    (free : FreeOf mark text) (rest : Text) :
    frontOf mark (text ++ (mark ++ rest)) = text := by
  have here : Text.startsWith (mark ++ rest) mark = true :=
    Text.startsWith_iff.mpr (List.prefix_append mark rest)
  rw [frontOf_append free]
  rw [isMark.eq_cons] at here ⊢
  rw [List.cons_append] at here ⊢
  rw [frontOf, here]
  exact List.append_nil text

/-- A link that a mark opens is read up to the quotation mark after it. -/
theorem IsMark.linksAfter_link (isMark : IsMark mark) {written ending : Text}
    (absent : '<' ∉ written) (unquoted : '"' ∉ written)
    (quoted : ending.head? = some '"') :
    linksAfter mark (mark ++ (written ++ ending)) =
      unescape written :: linksAfter mark ending := by
  have opened : Text.after? mark (mark ++ (written ++ ending)) =
      some (written ++ ending) :=
    Text.after?_append mark _
  have writtenEq : (written ++ ending).takeWhile (· ≠ '"') = written := by
    have kept : ∀ c ∈ written, decide (c ≠ '"') = true := by
      intro c member
      rw [decide_eq_true_iff]
      rintro rfl
      exact unquoted member
    rw [List.takeWhile_append_of_pos kept, List.eq_cons_of_mem_head? quoted,
      List.takeWhile_cons_of_neg (by simp), List.append_nil]
  -- The scan goes on right behind the first character of the mark.
  have passed :
      linksAfter mark (mark.tail ++ written ++ ending) = linksAfter mark ending :=
    linksAfter_append (isMark.onlyAtStart.append (isMark.freeOf absent)) ending
  have split :
      mark ++ (written ++ ending) = '<' :: (mark.tail ++ written ++ ending) := by
    conv_lhs => rw [isMark.eq_cons]
    rw [List.cons_append, List.append_assoc]
  rw [split] at opened ⊢
  rw [linksAfter, opened]
  dsimp only
  rw [writtenEq, passed]

/-- Markup with one link in it. -/
theorem IsMark.linksAfter_item (isMark : IsMark mark) {item ending : List Piece}
    {front written : Text}
    (itemEq : render item = front ++ (mark ++ (written ++ render ending)))
    (frontFree : FreeOf mark front) (absent : '<' ∉ written)
    (unquoted : '"' ∉ written) (quoted : (render ending).head? = some '"')
    (endingFree : FreeOf mark (render ending)) (rest : Text) :
    linksAfter mark (render item ++ rest) =
      unescape written :: linksAfter mark rest := by
  have stillQuoted : (render ending ++ rest).head? = some '"' := by
    rw [List.eq_cons_of_mem_head? quoted]
    rfl
  rw [itemEq, List.append_assoc, List.append_assoc, List.append_assoc,
    linksAfter_append frontFree, isMark.linksAfter_link absent unquoted stillQuoted,
    linksAfter_append endingFree]

/-- The links of items that follow each other are read one by one. -/
theorem linksAfter_items {α : Type} {item : α → List Piece} {link : α → Text}
    (itemLink : ∀ value rest,
      linksAfter mark (render (item value) ++ rest) =
        link value :: linksAfter mark rest)
    (values : List α) (rest : Text) :
    linksAfter mark (render (values.flatMap item) ++ rest) =
      values.map link ++ linksAfter mark rest := by
  induction values with
  | nil =>
      rfl
  | cons value values inductionHypothesis =>
      rw [List.flatMap_cons, render_append, List.append_assoc, itemLink,
        inductionHypothesis, List.map_cons, List.cons_append]

/-- A list of items between markup without links. -/
theorem linksAfter_list {α : Type} {front back : List Piece}
    {item : α → List Piece} {link : α → Text}
    (itemLink : ∀ value rest,
      linksAfter mark (render (item value) ++ rest) =
        link value :: linksAfter mark rest)
    (frontFree : FreeOf mark (render front)) (backFree : FreeOf mark (render back))
    (values : List α) (rest : Text) :
    linksAfter mark (render (front ++ values.flatMap item ++ back) ++ rest) =
      values.map link ++ linksAfter mark rest := by
  rw [render_append, render_append, List.append_assoc, List.append_assoc,
    linksAfter_append frontFree, linksAfter_items itemLink,
    linksAfter_append backFree]

end Marginalia.Html
