import Marginalia.Proofs.Divider.Search

/-!
# Splitting interleaved fragments

Fragments with a divider after each one but the last are cut back into the same
fragments.  A fragment may be any text without the divider line in it: the line
feed with which every divider starts keeps a match from starting earlier, and
the end of the divider keeps it from reaching further.
-/

namespace Marginalia
namespace Divider

/-- A class of comment tokens that may hold a divider. -/
abbrev CommentClass := { name : Text // name ∈ commentClasses }

/-- How a divider is written between two fragments: bare, as a token before its
line feed, or as a token that holds its line feed. -/
inductive Form where
  | bare
  | token (name : CommentClass)
  | tokenWithLineFeed (name : CommentClass)
  deriving DecidableEq

namespace Form

def isToken : Form → Bool
  | .bare => false
  | .token _ => true
  | .tokenWithLineFeed _ => true

/-- A divider in its form, after its first line feed. -/
def afterFirstLineFeed (divider : Text) : Form → Text
  | .bare => divider ++ ['\n']
  | .token name => openingTag name ++ divider ++ (tokenEnd ++ ['\n'])
  | .tokenWithLineFeed name =>
      openingTag name ++ divider ++ ('\n' :: tokenEnd)

def render (divider : Text) (form : Form) : Text :=
  '\n' :: form.afterFirstLineFeed divider

end Form

/-- Fragments with a divider after each one but the last. -/
def interleaved (divider : Text) (leading : List (Text × Form))
    (last : Text) : Text :=
  leading.flatMap (fun (fragment, form) => fragment ++ form.render divider) ++
    last

/-! ## Matches of a form -/

/-- The HTML after the end of a token that holds a divider. -/
def afterEnding? (tail : Text) : Option Text :=
  match Text.after? ('\n' :: tokenEnd) tail with
  | some rest => some rest
  | none => (Text.after? tokenEnd tail).map dropLineFeed

theorem afterToken?_openingTag (divider tail : Text) (name : CommentClass) :
    afterToken? divider (openingTag name ++ divider ++ tail) =
      afterEnding? tail := by
  obtain ⟨name, nameKnown⟩ := name
  have classFound :
      (commentClasses.findSome? fun candidate =>
          Text.after? (candidate ++ ['"', '>'])
            (name ++ ['"', '>'] ++ (divider ++ tail))) =
        some (divider ++ tail) := by
    simp only [commentClasses, List.mem_cons, List.not_mem_nil, or_false]
      at nameKnown
    rcases nameKnown with rfl | rfl | rfl | rfl <;> rfl
  have htmlEq :
      openingTag name ++ divider ++ tail =
        tokenStart ++ (name ++ ['"', '>'] ++ (divider ++ tail)) := by
    simp only [openingTag, List.append_assoc]
  simp only [afterToken?, htmlEq, Text.after?_append, Option.bind_eq_bind,
    Option.bind_some, classFound]
  rfl

/-- A token that holds a divider and a line feed in or after it is taken whole,
whatever follows it. -/
theorem afterToken?_append (divider rest : Text) (name : CommentClass)
    {ending : Text} (known : ending ∈ ['\n' :: tokenEnd, tokenEnd ++ ['\n']]) :
    afterToken? divider (openingTag name ++ divider ++ ending ++ rest) =
      some rest := by
  rw [List.append_assoc (openingTag name ++ divider), afterToken?_openingTag]
  simp only [List.mem_cons, List.not_mem_nil, or_false] at known
  rcases known with rfl | rfl <;> rfl

theorem matchAt?_of_token {divider start rest : Text}
    (token : afterToken? divider start = some rest) :
    matchAt? divider ('\n' :: start) = some ⟨true, rest⟩ := by
  simp [matchAt?, afterLineFeed, token]

theorem matchAt?_of_bare {divider start rest : Text}
    (noToken : afterToken? divider start = none)
    (bare : afterBare? divider start = some rest) :
    matchAt? divider ('\n' :: start) = some ⟨false, rest⟩ := by
  simp [matchAt?, afterLineFeed, noToken, bare]

variable {language : Language}

/-- A divider that is not a token does not start with a tag. -/
theorem afterToken?_renderedDivider (divider rest : Text) :
    afterToken? divider (language.renderedDivider ++ rest) = none := by
  have noTag : Text.after? tokenStart (language.renderedDivider ++ rest) = none := by
    rw [Text.after?_eq_none_iff]
    intro leading
    obtain ⟨first, others, dividerEq⟩ :=
      List.exists_cons_of_ne_nil language.renderedDivider_ne_nil
    rw [dividerEq] at leading
    obtain ⟨rfl, _⟩ := List.cons_prefix_cons.mp leading
    have noTag : '<' ∉ language.renderedDivider :=
      language.not_mem_renderedDivider (by decide)
    exact noTag (by rw [dividerEq]; exact List.mem_cons_self)
  simp [afterToken?, noTag]

@[simp]
theorem matchAt?_render (form : Form) (rest : Text) :
    matchAt? language.renderedDivider
        (form.render language.renderedDivider ++ rest) =
      some ⟨form.isToken, rest⟩ := by
  cases form with
  | bare =>
      have bare :
          afterBare? language.renderedDivider
              (language.renderedDivider ++ ['\n'] ++ rest) =
            some rest := by
        rw [afterBare?, List.append_assoc, Text.after?_append]
        rfl
      have noToken :
          afterToken? language.renderedDivider
              (language.renderedDivider ++ ['\n'] ++ rest) =
            none := by
        rw [List.append_assoc]
        exact afterToken?_renderedDivider _ _
      exact matchAt?_of_bare noToken bare
  | token name =>
      exact matchAt?_of_token (afterToken?_append _ rest name (by simp))
  | tokenWithLineFeed name =>
      exact matchAt?_of_token (afterToken?_append _ rest name (by simp))

/-- No match starts in a fragment without a divider when a line feed follows
it. -/
theorem matchAt?_eq_none {passed rest html : Text}
    (oneLine : '\n' ∉ language.symbol)
    (clean : ¬ language.renderedDivider <:+: passed)
    (isRest : rest <:+ passed) (nonempty : rest ≠ []) :
    matchAt? language.renderedDivider (rest ++ '\n' :: html) = none := by
  by_contra matched
  obtain ⟨found, matched⟩ := Option.ne_none_iff_exists'.mp matched
  obtain ⟨text, written, htmlEq⟩ := matchAt?_sound matched
  obtain ⟨lead, leadKnown, line, others, rfl, noLineFeed, inLine⟩ :=
    written.exists_line (Language.lineFeed_not_mem_renderedDivider oneLine)
  -- The line of the match lies in what is left of the fragment.
  have lineInRest : line <:+: rest := by
    simp only [lineFeeds, List.mem_cons, List.not_mem_nil, or_false]
      at leadKnown
    rcases leadKnown with rfl | rfl
    · have leading : line <+: rest ++ '\n' :: html :=
        ⟨others ++ found.rest, by simpa using htmlEq.symm⟩
      exact (Text.prefix_of_prefix_append_cons noLineFeed leading).isInfix
    · obtain ⟨first, later, rfl⟩ := List.exists_cons_of_ne_nil nonempty
      have leading : line <+: later ++ '\n' :: html := by
        refine ⟨others ++ found.rest, ?_⟩
        simpa using (List.cons.inj htmlEq).2.symm
      exact List.infix_cons
        (Text.prefix_of_prefix_append_cons noLineFeed leading).isInfix
  exact clean (inLine.trans (lineInRest.trans isRest.isInfix))

/-! ## Cuts of interleaved fragments -/

/-- The first divider after a fragment without one is the divider that follows
the fragment. -/
theorem find?_append_render {fragment : Text} (form : Form) (rest : Text)
    (oneLine : '\n' ∉ language.symbol)
    (clean : ¬ language.renderedDivider <:+: fragment)
    (outside : form = .bare → insideToken fragment = false) :
    find? language.renderedDivider
        (fragment ++ form.render language.renderedDivider ++ rest) =
      some (fragment, rest) := by
  have passed :
      findFrom language.renderedDivider [] 0
          (fragment ++ (form.render language.renderedDivider ++ rest)) =
        findFrom language.renderedDivider (fragment.reverse ++ []) 0
          (form.render language.renderedDivider ++ rest) :=
    findFrom_append [] fun later isRest nonempty =>
      matchAt?_eq_none oneLine clean isRest nonempty
  have accepted : (form.isToken || !insideToken fragment) = true := by
    cases form with
    | bare =>
        simp [outside rfl]
    | token name =>
        rfl
    | tokenWithLineFeed name =>
        rfl
  rw [find?, List.append_assoc, passed]
  have matched := @matchAt?_render language form rest
  rw [Form.render, List.cons_append] at matched ⊢
  rw [findFrom, matched]
  simp [accepted]

@[simp]
theorem cut_nil (divider : Text) (count : Nat) :
    cut divider count [] = (List.replicate count [], 0) := by
  induction count with
  | zero =>
      rfl
  | succ count inductionHypothesis =>
      have noDivider : find? divider [] = none := rfl
      rw [cut, noDivider]
      simp [inductionHypothesis, List.replicate_succ]

@[simp]
theorem length_cut (divider : Text) (count : Nat) (html : Text) :
    (cut divider count html).1.length = count := by
  induction count generalizing html with
  | zero =>
      rfl
  | succ count inductionHypothesis =>
      rw [cut]
      split <;> simp [inductionHypothesis]

/-- Interleaved fragments are cut back into the same fragments, with empty ones
after them. -/
theorem cut_interleaved {leading : List (Text × Form)} {last : Text}
    {count : Nat} (oneLine : '\n' ∉ language.symbol)
    (clean : ∀ fragment ∈ leading.map Prod.fst ++ [last],
      ¬ language.renderedDivider <:+: fragment)
    (outside : ∀ pair ∈ leading, pair.2 = .bare →
      insideToken pair.1 = false)
    (enough : leading.length < count) :
    cut language.renderedDivider count
        (interleaved language.renderedDivider leading last) =
      (leading.map Prod.fst ++
          last :: List.replicate (count - (leading.length + 1)) [],
        leading.length) := by
  induction leading generalizing count with
  | nil =>
      obtain ⟨count, rfl⟩ := Nat.exists_eq_add_one.mpr enough
      have noDivider : find? language.renderedDivider last = none :=
        find?_eq_none (clean last (by simp))
      simp [cut, interleaved, noDivider]
  | cons pair leading inductionHypothesis =>
      obtain ⟨fragment, form⟩ := pair
      obtain ⟨count, rfl⟩ := Nat.exists_eq_add_one.mpr (Nat.zero_lt_of_lt enough)
      have htmlEq :
          interleaved language.renderedDivider ((fragment, form) :: leading)
              last =
            fragment ++ form.render language.renderedDivider ++
              interleaved language.renderedDivider leading last := by
        simp [interleaved]
      have found :
          find? language.renderedDivider
              (interleaved language.renderedDivider
                ((fragment, form) :: leading) last) =
            some (fragment,
              interleaved language.renderedDivider leading last) := by
        rw [htmlEq]
        exact find?_append_render form _ oneLine (clean fragment (by simp))
          (outside (fragment, form) List.mem_cons_self)
      have cutRest :=
        inductionHypothesis
          (fun fragment member => clean fragment (by simp at member ⊢; tauto))
          (fun pair member => outside pair (List.mem_cons_of_mem _ member))
          (by simpa using enough : leading.length < count)
      rw [cut, found]
      simp [cutRest]

/-- Splitting undoes interleaving.  The fragments are arbitrary texts without
the divider line, and every divider between them has a form of its own; a bare
one does not stand inside a token.  Beyond the dividers there are, fragments are
empty. -/
theorem split_interleaved (language : Language)
    (leading : List (Text × Form)) (last : Text) (count : Nat)
    (oneLine : '\n' ∉ language.symbol)
    (clean : ∀ fragment ∈ leading.map Prod.fst ++ [last],
      ¬ language.renderedDivider <:+: fragment)
    (outside : ∀ pair ∈ leading, pair.2 = .bare →
      Text.occurrences ['<', 's', 'p', 'a', 'n'] pair.1 ≤
        Text.occurrences tokenEnd pair.1)
    (enough : leading.length + 1 ≤ count) :
    split language.renderedDivider count
        (interleaved language.renderedDivider leading last) =
      (leading.map Prod.fst ++ [last] ++
          List.replicate (count - (leading.length + 1)) [],
        leading.length) := by
  have cutAll :=
    @cut_interleaved language leading last count oneLine clean
      (fun pair member isBare => by
        simpa [insideToken] using outside pair member isBare)
      enough
  have counted : min leading.length (count - 1) = leading.length := by
    omega
  simp [split, cutAll, counted]

/-- Four fragments between the three forms, with line feeds at their ends, a
part of a divider and a token that stays open, and two fragments more than
there are. -/
theorem split_interleaved_python :
    split (Language.renderedDivider ⟨"python", "#", ["py"]⟩) 6
        ("a\n\n#DIVIDER\n\n<span class=\"s\">\n<span class=\"c1\">#DIVIDER" ++
          "</span>\n#DIVIDE\n<span class=\"cm\">#DIVIDER\n</span>\nb" : Text) =
      ((["a\n", "\n<span class=\"s\">", "#DIVIDE", "\nb", "", ""] : List Text),
        3) := by
  exact split_interleaved ⟨"python", "#", ["py"]⟩
    [("a\n", .bare), ("\n<span class=\"s\">", .token ⟨"c1", by decide⟩),
      ("#DIVIDE", .tokenWithLineFeed ⟨"cm", by decide⟩)] "\nb" 6
    (by decide) (by decide)
    (by decide) (by decide)

end Divider
end Marginalia
