import Marginalia.Proofs.FileSystem.Relative
import Marginalia.Proofs.Html.Reference
import Marginalia.Proofs.Page.Link
import Marginalia.Proofs.Site.Naming

/-!
# Links as references

Pages write the relative paths of files into their links as they are.  Read as a URL
reference, such a link names the file exactly if the artifact, or the annotated file
without its extension, has a plain name.
-/

namespace Marginalia

open Reference (Names IsPlain)

/-! ## Names of pages -/

namespace Snapshot

/-- The name of the annotated file without its last extension. -/
def stem (snapshot : Snapshot) : Text :=
  snapshot.docFile.fileStem?.getD []

theorem pageName_eq (snapshot : Snapshot) :
    snapshot.pageName = snapshot.stem ++ '.' :: "html".toList :=
  rfl

theorem noSlash_stem (snapshot : Snapshot) : '/' ∉ snapshot.stem := by
  intro slash
  have noSlash := snapshot.isName_pageName.noSlash
  rw [pageName_eq] at noSlash
  exact noSlash (List.mem_append_left _ slash)

end Snapshot

/-! ## Endings -/

namespace Reference

theorem isPlain_indexName : IsPlain "index.html".toList :=
  isPlain_of_all (by decide)

theorem isPlain_extension : IsPlain "html".toList :=
  isPlain_of_all (by decide)

theorem names_artifactLink_iff {name : Text} (noSlash : '/' ∉ name) :
    Names (Page.artifactLink name) (Page.artifactLink name) ↔ IsPlain name :=
  names_append_self_iff noSlash (by decide) isPlain_indexName

theorem names_pageName_iff (snapshot : Snapshot) :
    Names snapshot.pageName snapshot.pageName ↔ IsPlain snapshot.stem := by
  rw [snapshot.pageName_eq]
  exact names_append_self_iff snapshot.noSlash_stem (by decide) isPlain_extension

end Reference

namespace Page

/-- A name that an entry of the input directory can have and that is not hidden. -/
structure IsVisibleName (name : Text) : Prop where
  nonempty : name ≠ []
  noSlash : '/' ∉ name
  visible : InputFile.isHidden name = false

theorem IsVisibleName.isName {name : Text} (named : IsVisibleName name) :
    Path.IsName name where
  nonempty := named.nonempty
  noSlash := named.noSlash
  notHere := by
    rintro rfl
    cases named.visible
  notAbove := by
    rintro rfl
    cases named.visible

/-- The links that a page writes, each with the item that it is for. -/
theorem forall₂_links {α : Type} {links : List Text} {items : List α} {link : α → Text}
    (linksEq : links = items.map link) {holds : Text → α → Prop}
    (each : ∀ item ∈ items, holds (link item) item) :
    List.Forall₂ holds links items := by
  rw [linksEq, List.forall₂_map_left_iff, List.forall₂_same]
  exact each

/-- A link to an artifact names the index in the directory of the artifact exactly if
the artifact has a plain name, and a link to a revision names its page exactly if the
annotated file has one.  This holds of all links on the landing page, on the indexes
and in the menus. -/
theorem links_name_files_iff (output : Path) (stylesheetName : Text) :
    (∀ catalog : Catalog, (∀ name ∈ catalog.names, IsVisibleName name) →
      List.Forall₂
        (fun link name =>
          output.join ⟨artifactLink name⟩ = (output.join ⟨name⟩).join "index.html" ∧
          (Names link (artifactLink name) ↔ IsPlain name))
        (itemLinks (renderLanding catalog stylesheetName)) catalog.names) ∧
    (∀ group : Group,
      List.Forall₂
        (fun link snapshot => Names link snapshot.pageName ↔ IsPlain snapshot.stem)
        (itemLinks (renderArtifactIndex group stylesheetName)) group.snapshots) ∧
    ∀ page : Revision,
      List.Forall₂
        (fun link other => Names link other.pageName ↔ IsPlain other.stem)
        (menuLinks (renderRevision page)) page.others := by
  refine ⟨fun catalog visible => ?_, fun group => ?_, fun page => ?_⟩
  · refine forall₂_links (itemLinks_renderLanding catalog stylesheetName) ?_
    intro name member
    have named := visible name member
    have relative : Path.isAbsolute "index.html" = false := by
      decide +kernel
    exact ⟨(Path.join_join_relative named.isName relative output).symm,
      Reference.names_artifactLink_iff named.noSlash⟩
  · exact forall₂_links (itemLinks_renderArtifactIndex group stylesheetName)
      fun snapshot _ => Reference.names_pageName_iff snapshot
  · exact forall₂_links (menuLinks_renderRevision page)
      fun other _ => Reference.names_pageName_iff other

/-- A name that is escaped in the page but means nothing in a reference. -/
theorem links_name_files_ampersand :
    let name := ['a', '&', 'b', ' ', 'c']
    let catalog := Catalog.ofSnapshots
      [⟨name, "1", ⟨2020, 3, 3⟩, "Mar 3 2020", "x.py", "l", "Ada", "in/a&b c/x.py", 5⟩]
    IsVisibleName name ∧
    itemLinks (renderLanding catalog "lazylit.css") = [artifactLink name] ∧
    Names (artifactLink name) (artifactLink name) := by
  intro name catalog
  have namesEq : catalog.names = [name] := by
    dsimp only [catalog, name]
    cbv
  have visible : IsVisibleName name := ⟨by decide, by decide, by decide⟩
  have plain : IsPlain name := Reference.isPlain_of_all (by decide)
  have linksEq := itemLinks_renderLanding catalog "lazylit.css"
  obtain ⟨landing, _, _⟩ := links_name_files_iff "out" "lazylit.css"
  have links := landing catalog fun other member => by
    rw [namesEq, List.mem_singleton] at member
    rw [member]
    exact visible
  rw [linksEq, namesEq, List.map_singleton, List.forall₂_cons] at links
  refine ⟨visible, ?_, links.1.2.mpr plain⟩
  rw [linksEq, namesEq]
  rfl

/-- The link to an artifact whose name has a number sign names another file: its path
ends before the sign. -/
theorem landing_link_ends_at_fragment :
    let name := ['c', '#']
    let catalog := Catalog.ofSnapshots
      [⟨name, "1", ⟨2020, 3, 3⟩, "Mar 3 2020", "x.py", "l", "Ada", "in/c#/x.py", 5⟩]
    IsVisibleName name ∧
    itemLinks (renderLanding catalog "lazylit.css") = [artifactLink name] ∧
    Names (artifactLink name) ['c'] ∧
    ¬ Names (artifactLink name) (artifactLink name) := by
  intro name catalog
  have namesEq : catalog.names = [name] := by
    dsimp only [catalog, name]
    cbv
  have pathEq : Reference.path? (artifactLink name) = some (Text.bytes ['c']) := by
    decide
  refine ⟨⟨by decide, by decide, by decide⟩, ?_, pathEq, ?_⟩
  · rw [itemLinks_renderLanding, namesEq]
    rfl
  · rw [Reference.names_artifactLink_iff (by decide)]
    intro plain
    exact plain.noFragment (by decide)

end Page

end Marginalia
