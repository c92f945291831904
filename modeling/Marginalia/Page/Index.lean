import Marginalia.Catalog
import Marginalia.Page.Revision

/-!
# Index pages

The index of an artifact lists its revisions, and the landing page of a site
lists its artifacts.
-/

namespace Marginalia.Page

open Html (Piece)

def revisionItem (snapshot : Snapshot) : List Piece :=
  [.markup "          <li><a href=\"",
   .value snapshot.pageName,
   .markup "\">",
   .value snapshot.dateText,
   .markup " (",
   .value snapshot.sourceFile,
   .markup ")</a></li>\n"]

def artifactIndexPieces (group : Group) (stylesheetName : Text) : List Piece :=
  documentStart ++ [.value group.name] ++ afterTitle ++
    [.markup "../", .value stylesheetName] ++ bodyStart ++
    [.markup "    <div id=\"content\">\n      <h1>",
     .value group.name,
     .markup "</h1>\n      <p>Notes are available for these revisions ",
     .markup "(commits):</p>\n      <ul>\n"] ++
    group.snapshots.flatMap revisionItem ++
    [.markup "      </ul>\n    </div>\n  </div>\n</body>\n</html>\n"]

def renderArtifactIndex (group : Group) (stylesheetName : Text) : Text :=
  Html.render (artifactIndexPieces group stylesheetName)

def artifactItem (name : Text) : List Piece :=
  [.markup "          <li><a href=\"",
   .value name,
   .markup "/index.html\">",
   .value name,
   .markup "</a></li>\n"]

/-- The name of the landing page as it shows itself. -/
def siteTitle : Text := "lazylit"

def landingPieces (catalog : Catalog) (stylesheetName : Text) : List Piece :=
  documentStart ++ [.markup siteTitle] ++ afterTitle ++
    [.value stylesheetName] ++ bodyStart ++
    [.markup "    <div id=\"content\">\n      <h1>",
     .markup siteTitle,
     .markup "</h1>\n      <p>\n",
     .markup "        Each page here is a set of notes written against one ",
     .markup "revision of a\n",
     .markup "        source file that lives elsewhere. Pick an artifact to ",
     .markup "see which\n",
     .markup "        revisions have notes:\n      </p>\n      <ul>\n"] ++
    catalog.names.flatMap artifactItem ++
    [.markup "      </ul>\n      <p class=\"footnote\">\n",
     .markup "        Artifact links lead to an index page, so the address ",
     .markup "stays the same\n",
     .markup "        even when the documented file is renamed between ",
     .markup "revisions.\n",
     .markup "      </p>\n    </div>\n  </div>\n</body>\n</html>\n"]

def renderLanding (catalog : Catalog) (stylesheetName : Text) : Text :=
  Html.render (landingPieces catalog stylesheetName)

end Marginalia.Page
