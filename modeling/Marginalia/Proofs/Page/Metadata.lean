import Marginalia.Page.Index
import Marginalia.Proofs.Html.Escape

/-!
# Metadata on pages

What a page says about a snapshot is escaped.  So the characters that delimit
tags and quoted values come from the markup of the page alone, and they are the
same for all snapshots.
-/

namespace Marginalia

/-! ## Delimiters of pieces -/

namespace Html

/-- The delimiters of some HTML, in order. -/
def delimitersOf (html : Text) : Text :=
  html.filter (· ∈ delimiters)

@[simp]
theorem delimitersOf_append (left right : Text) :
    delimitersOf (left ++ right) = delimitersOf left ++ delimitersOf right :=
  List.filter_append _ _

@[simp]
theorem delimitersOf_escape (text : Text) : delimitersOf (escape text) = [] := by
  rw [delimitersOf, List.filter_eq_nil_iff]
  intro c member delimits
  exact not_mem_escape_of_significant text (of_decide_eq_true delimits) member

/-- A piece without its value. -/
def Piece.blank : Piece → Piece
  | .markup html => .markup html
  | .value _ => .value []

@[simp]
theorem delimitersOf_blank (piece : Piece) :
    delimitersOf piece.blank.render = delimitersOf piece.render := by
  cases piece with
  | markup html => rfl
  | value text => exact (delimitersOf_escape text).symm

/-- Values make no difference to the delimiters. -/
theorem delimitersOf_render_blank (pieces : List Piece) :
    delimitersOf (render (pieces.map Piece.blank)) =
      delimitersOf (render pieces) := by
  induction pieces with
  | nil =>
      rfl
  | cons piece pieces inductionHypothesis =>
      rw [render] at inductionHypothesis
      rw [render, render, List.map_cons, List.flatMap_cons, List.flatMap_cons,
        delimitersOf_append, delimitersOf_append, delimitersOf_blank,
        inductionHypothesis, render]

theorem delimitersOf_render_congr {first second : List Piece}
    (same : first.map Piece.blank = second.map Piece.blank) :
    delimitersOf (render first) = delimitersOf (render second) := by
  rw [← delimitersOf_render_blank first, same, delimitersOf_render_blank]

/-- Items that differ in their values only are told by their number. -/
theorem map_blank_flatMap_congr {α : Type} {item : α → List Piece}
    (formed : ∀ value other,
      (item value).map Piece.blank = (item other).map Piece.blank)
    {first second : List α} (sameLength : first.length = second.length) :
    (first.flatMap item).map Piece.blank =
      (second.flatMap item).map Piece.blank := by
  induction first generalizing second with
  | nil =>
      rw [List.eq_nil_of_length_eq_zero sameLength.symm]
  | cons value first inductionHypothesis =>
      cases second with
      | nil => cases sameLength
      | cons other second =>
          have sameRest := inductionHypothesis (Nat.succ.inj sameLength)
          rw [List.flatMap_cons, List.flatMap_cons, List.map_append,
            List.map_append, formed value other, sameRest]

end Html

/-! ## Pages of every kind -/

namespace Page

open Html (Piece delimitersOf)

theorem isEmpty_congr {first second : List Snapshot}
    (sameLength : first.length = second.length) :
    first.isEmpty = second.isEmpty := by
  cases first <;> cases second <;> simp_all

theorem map_blank_menu {first second : List Snapshot}
    (sameLength : first.length = second.length) :
    (menu first).map Piece.blank = (menu second).map Piece.blank := by
  have sameEntries :
      (first.flatMap menuEntry).map Piece.blank =
        (second.flatMap menuEntry).map Piece.blank :=
    Html.map_blank_flatMap_congr (fun _ _ => rfl) sameLength
  rw [menu, menu, isEmpty_congr sameLength]
  split
  · rfl
  · simp only [List.map_append, sameEntries]

theorem map_blank_provenance {first second : Revision}
    (sameLength : first.others.length = second.others.length) :
    (provenance first).map Piece.blank =
      (provenance second).map Piece.blank := by
  rw [provenance, provenance, isEmpty_congr sameLength]
  rfl

theorem map_blank_revisionPieces {first second : Revision}
    (sameSections : first.sections = second.sections)
    (sameLength : first.others.length = second.others.length) :
    (revisionPieces first).map Piece.blank =
      (revisionPieces second).map Piece.blank := by
  rw [revisionPieces, revisionPieces, sameSections]
  simp only [List.map_append, map_blank_menu sameLength,
    map_blank_provenance sameLength]
  rfl

theorem map_blank_artifactIndexPieces {first second : Group}
    (sameLength : first.snapshots.length = second.snapshots.length)
    (stylesheetName otherName : Text) :
    (artifactIndexPieces first stylesheetName).map Piece.blank =
      (artifactIndexPieces second otherName).map Piece.blank := by
  have sameItems :
      (first.snapshots.flatMap revisionItem).map Piece.blank =
        (second.snapshots.flatMap revisionItem).map Piece.blank :=
    Html.map_blank_flatMap_congr (fun _ _ => rfl) sameLength
  rw [artifactIndexPieces, artifactIndexPieces]
  simp only [List.map_append, sameItems]
  rfl

theorem map_blank_landingPieces {first second : Catalog}
    (sameCount : first.artifactCount = second.artifactCount)
    (stylesheetName otherName : Text) :
    (landingPieces first stylesheetName).map Piece.blank =
      (landingPieces second otherName).map Piece.blank := by
  have sameLength : first.names.length = second.names.length := by
    rw [Catalog.names, Catalog.names, List.length_map, List.length_map]
    exact sameCount
  have sameItems :
      (first.names.flatMap artifactItem).map Piece.blank =
        (second.names.flatMap artifactItem).map Piece.blank :=
    Html.map_blank_flatMap_congr (fun _ _ => rfl) sameLength
  rw [landingPieces, landingPieces]
  simp only [List.map_append, sameItems]
  rfl

/-- Metadata makes no difference to the delimiters of a page.  They are the same
for all pages of revisions with the same sections and as many other revisions,
for all indexes of as many snapshots and for all landing pages with as many
artifacts. -/
theorem delimitersOf_page_of_any_metadata :
    (∀ first second : Revision, first.sections = second.sections →
      first.others.length = second.others.length →
        delimitersOf (renderRevision first) =
          delimitersOf (renderRevision second)) ∧
    (∀ (first second : Group) (stylesheetName otherName : Text),
      first.snapshots.length = second.snapshots.length →
        delimitersOf (renderArtifactIndex first stylesheetName) =
          delimitersOf (renderArtifactIndex second otherName)) ∧
    (∀ (first second : Catalog) (stylesheetName otherName : Text),
      first.artifactCount = second.artifactCount →
        delimitersOf (renderLanding first stylesheetName) =
          delimitersOf (renderLanding second otherName)) := by
  refine ⟨?_, ?_, ?_⟩
  · intro first second sameSections sameLength
    exact Html.delimitersOf_render_congr
      (map_blank_revisionPieces sameSections sameLength)
  · intro first second stylesheetName otherName sameLength
    exact Html.delimitersOf_render_congr
      (map_blank_artifactIndexPieces sameLength stylesheetName otherName)
  · intro first second stylesheetName otherName sameCount
    exact Html.delimitersOf_render_congr
      (map_blank_landingPieces sameCount stylesheetName otherName)

/-- Two pages with one other revision each, where the metadata of the second one
is full of delimiters, and the indexes and landing pages of their artifacts. -/
theorem delimitersOf_page_of_any_metadata_script :
    let plain : Snapshot :=
      ⟨"a", "1", ⟨2020, 1, 2⟩, "Jan 2 2020", "x.py", "l", "Ada", "in/a/x.py", 5⟩
    let hostile : Snapshot :=
      ⟨"<b>'", "\"><script>", ⟨2021, 3, 4⟩, "Mar 4 2021", "'/\"<x>.py",
        "\" onclick='f()'", "<Ada>", "in/<b>'/\"x\".py", 7⟩
    let sections : List Section := [{ docsHtml := "<p>one</p>\n".toList }]
    delimitersOf (renderRevision ⟨plain, [plain], sections, "lazylit.css"⟩) =
        delimitersOf
          (renderRevision ⟨hostile, [hostile], sections, "\">.css"⟩) ∧
      delimitersOf (renderArtifactIndex ⟨"a", [plain]⟩ "lazylit.css") =
        delimitersOf (renderArtifactIndex ⟨"<b>'", [hostile]⟩ "\">.css") ∧
      delimitersOf (renderLanding ⟨[⟨"a", [plain]⟩]⟩ "lazylit.css") =
        delimitersOf (renderLanding ⟨[⟨"<b>'", [hostile]⟩]⟩ "\">.css") := by
  intro plain hostile sections
  obtain ⟨revisions, indexes, landings⟩ := delimitersOf_page_of_any_metadata
  exact ⟨revisions _ _ rfl rfl, indexes _ _ _ _ rfl, landings _ _ _ _ rfl⟩

end Page

end Marginalia
