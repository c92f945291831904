import Marginalia.Proofs.Divider.Interleaving

/-!
# What splitting leaves out

A split looks for a divider after every fragment, also after the last one.  As
long as there are fewer dividers than fragments, the fragments and the dividers
between them are the whole HTML.  With one more divider the last fragment ends
before it, and the HTML from there on is in no fragment.
-/

namespace Marginalia
namespace Divider

/-- Fragments with written dividers between them are some HTML: a divider follows
each of the first `found` fragments, and those after the next one are empty. -/
def Rejoins (divider html : Text) (fragments : List Text) (found : Nat) : Prop :=
  ∃ (leading : List (Text × Text)) (last : Text),
    fragments =
      leading.map Prod.fst ++
        last :: List.replicate (fragments.length - (leading.length + 1)) [] ∧
    found = leading.length ∧
    (∀ pair ∈ leading, ∃ isToken, Written divider isToken pair.2) ∧
    html = leading.flatMap (fun pair => pair.1 ++ pair.2) ++ last

variable {divider : Text}

theorem cut_of_find?_eq_none {html : Text} (absent : find? divider html = none)
    (count : Nat) :
    cut divider (count + 1) html = (html :: List.replicate count [], 0) := by
  rw [cut, absent]
  simp only [cut_nil]

theorem cut_of_find?_eq_some {html before after : Text}
    (found : find? divider html = some (before, after)) (count : Nat) :
    cut divider (count + 1) html =
      (before :: (cut divider count after).1, (cut divider count after).2 + 1) := by
  rw [cut, found]

/-! ## One divider -/

theorem rejoins_of_find?_eq_none {html : Text}
    (absent : find? divider html = none) (count : Nat) :
    Rejoins divider html (cut divider (count + 1) html).1
      (cut divider (count + 1) html).2 := by
  rw [cut_of_find?_eq_none absent]
  refine ⟨[], html, ?_, rfl, by simp, rfl⟩
  simp

/-- A fragment and the divider after it go in front. -/
theorem Rejoins.cons {html fragment text : Text} {fragments : List Text}
    {found : Nat} {isToken : Bool} (written : Written divider isToken text)
    (rest : Rejoins divider html fragments found) :
    Rejoins divider (fragment ++ text ++ html) (fragment :: fragments)
      (found + 1) := by
  obtain ⟨leading, last, fragmentsEq, foundEq, allWritten, htmlEq⟩ := rest
  refine ⟨(fragment, text) :: leading, last, ?_, ?_, ?_, ?_⟩
  · have sameLength :
        (fragment :: fragments).length - (((fragment, text) :: leading).length + 1) =
          fragments.length - (leading.length + 1) := by
      simp only [List.length_cons]
      omega
    rw [sameLength, List.map_cons, List.cons_append, ← fragmentsEq]
  · rw [foundEq, List.length_cons]
  · intro pair member
    rcases List.mem_cons.mp member with rfl | later
    · exact ⟨isToken, written⟩
    · exact allWritten pair later
  · rw [htmlEq, List.flatMap_cons, List.append_assoc (fragment ++ text)]

/-! ## All dividers -/

/-- With fewer dividers than fragments nothing is left out; otherwise the HTML from
the divider after the last fragment on is. -/
theorem cut_rejoins (divider : Text) (count : Nat) (html : Text) :
    (((cut divider (count + 1) html).2 ≤ count ∧
      Rejoins divider html (cut divider (count + 1) html).1
        (cut divider (count + 1) html).2) ∨
    ((cut divider (count + 1) html).2 = count + 1 ∧
      ∃ kept lost isToken text rest, html = kept ++ lost ∧
        Rejoins divider kept (cut divider (count + 1) html).1 count ∧
        Written divider isToken text ∧ lost = text ++ rest)) := by
  induction count generalizing html with
  | zero =>
      cases found : find? divider html with
      | none =>
          left
          refine ⟨?_, rejoins_of_find?_eq_none found 0⟩
          rw [cut_of_find?_eq_none found]
      | some parts =>
          obtain ⟨before, after⟩ := parts
          obtain ⟨text, isToken, htmlEq, written, _⟩ := find?_sound found
          right
          rw [cut_of_find?_eq_some found]
          refine ⟨rfl, before, text ++ after, isToken, text, after, ?_, ?_, written,
            rfl⟩
          · rw [htmlEq, List.append_assoc]
          · exact ⟨[], before, rfl, rfl, by simp, rfl⟩
  | succ count inductionHypothesis =>
      cases found : find? divider html with
      | none =>
          left
          refine ⟨?_, rejoins_of_find?_eq_none found (count + 1)⟩
          rw [cut_of_find?_eq_none found]
          exact Nat.zero_le _
      | some parts =>
          obtain ⟨before, after⟩ := parts
          obtain ⟨text, isToken, rfl, written, _⟩ := find?_sound found
          rw [cut_of_find?_eq_some found]
          rcases inductionHypothesis after with
            ⟨few, rejoins⟩ | ⟨many, kept, lost, lostToken, lostText, rest, afterEq,
              rejoins, lostWritten, lostEq⟩
          · left
            exact ⟨Nat.succ_le_succ few, rejoins.cons written⟩
          · right
            refine ⟨by rw [many], before ++ text ++ kept, lost, lostToken, lostText,
              rest, ?_, rejoins.cons written, lostWritten, lostEq⟩
            rw [afterEq, List.append_assoc _ kept]

/-- There are as many fragments as asked for, and fewer dividers are counted.  If
the search finds fewer dividers than there are fragments, nothing but these
dividers is left out.  If not, this is so up to the divider after the last
fragment, and the HTML from there on is in no fragment. -/
theorem split_leaves_out (language : Language) (count : Nat) (html : Text) :
    let divider := language.renderedDivider
    let fragments := (split divider (count + 1) html).1
    let counted := (split divider (count + 1) html).2
    let found := (cut divider (count + 1) html).2
    fragments.length = count + 1 ∧
    counted ≤ count ∧
    (found ≤ count → Rejoins divider html fragments counted) ∧
    (count < found →
      counted = count ∧
      ∃ kept lost, html = kept ++ lost ∧
        Rejoins divider kept fragments counted ∧
        ∃ isToken text rest, Written divider isToken text ∧
          lost = text ++ rest) := by
  intro divider fragments counted found
  have fragmentsEq : fragments = (cut divider (count + 1) html).1 := rfl
  have countedEq : counted = min found count := rfl
  refine ⟨length_cut divider (count + 1) html, ?_, ?_, ?_⟩
  · rw [countedEq]
    exact Nat.min_le_right _ _
  · intro few
    rcases cut_rejoins divider count html with ⟨_, rejoins⟩ | ⟨many, _⟩
    · rw [countedEq, Nat.min_eq_left few]
      exact rejoins
    · omega
  · intro many
    have all : counted = count := by
      omega
    rcases cut_rejoins divider count html with
      ⟨few, _⟩ | ⟨_, kept, lost, isToken, text, rest, htmlEq, rejoins, written,
        lostEq⟩
    · omega
    · rw [all]
      exact ⟨rfl, kept, lost, htmlEq, rejoins, isToken, text, rest, written, lostEq⟩

/-- One fragment and one divider: the text after the divider is in no fragment,
and no divider is counted. -/
theorem split_loses_text_after_last_fragment :
    ¬ Rejoins (Language.renderedDivider ⟨"python", "#", ["py"]⟩) "a\n#DIVIDER\nb"
        (split (Language.renderedDivider ⟨"python", "#", ["py"]⟩) 1
          "a\n#DIVIDER\nb").1
        (split (Language.renderedDivider ⟨"python", "#", ["py"]⟩) 1
          "a\n#DIVIDER\nb").2 := by
  have splitEq :
      split (Language.renderedDivider ⟨"python", "#", ["py"]⟩) 1
          "a\n#DIVIDER\nb" =
        ((["a"] : List Text), 0) := by
    decide
  rw [splitEq]
  rintro ⟨leading, last, fragmentsEq, foundEq, _, htmlEq⟩
  obtain rfl : leading = [] := List.length_eq_zero_iff.mp foundEq.symm
  obtain rfl : ("a" : Text) = last := (List.cons.inj fragmentsEq).1
  revert htmlEq
  decide

end Divider
end Marginalia
