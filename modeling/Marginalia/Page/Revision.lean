import Marginalia.Html.Escape
import Marginalia.Section
import Marginalia.Snapshot

/-!
# The page of a revision

A page shows one snapshot: a title, where the documented file comes from, a
menu of the other revisions if there are any, and prose beside code, one row
for each section.
-/

namespace Marginalia.Page

open Html (Piece)

/-- What the page of a revision shows. -/
structure Revision where
  snapshot : Snapshot
  /-- The other snapshots of the artifact, the newest first. -/
  others : List Snapshot
  sections : List Section
  /-- The stylesheet in the root of the site. -/
  stylesheetName : Text

/-- The start of every page, up to the title. -/
def documentStart : List Piece :=
  [.markup "<!DOCTYPE html>\n<html>\n<head>\n  <title>"]

/-- The head of a page between its title and the address of its stylesheet. -/
def afterTitle : List Piece :=
  [.markup "</title>\n",
   .markup "  <meta http-equiv=\"content-type\" content=\"text/html; ",
   .markup "charset=UTF-8\">\n",
   .markup "  <link rel=\"stylesheet\" media=\"all\" href=\""]

/-- The start of the body, after the address of the stylesheet. -/
def bodyStart : List Piece :=
  [.markup "\" />\n</head>\n<body>\n  <div id=\"container\">\n",
   .markup "    <div id=\"background\"></div>\n"]

/-- A link of the menu to another revision. -/
def menuEntry (other : Snapshot) : List Piece :=
  [.markup "            <a class=\"source\" href=\"",
   .value other.pageName,
   .markup "\">",
   .value other.dateText,
   .markup "</a>\n"]

def menu (others : List Snapshot) : List Piece :=
  if others.isEmpty then []
  else
    [.markup "    <div id=\"jump_to\">\n      Other revisions &hellip;\n",
     .markup "      <div id=\"jump_wrapper\">\n",
     .markup "        <div id=\"jump_page\">\n"] ++
    others.flatMap menuEntry ++
    [.markup "        </div>\n      </div>\n    </div>\n"]

/-- The row of a section; sections are counted from one. -/
def row (index : Nat) (part : Section) : List Piece :=
  let number := Text.ofNat (index + 1)
  [.markup "        <tr id=\"section-", .markup number, .markup "\">\n",
   .markup "          <td class=\"docs\">\n",
   .markup "            <div class=\"pilwrap\">\n",
   .markup "              <a class=\"pilcrow\" href=\"#section-",
   .markup number, .markup "\">&#182;</a>\n",
   .markup "            </div>\n            ",
   .markup part.docsHtml,
   .markup "\n          </td>\n          <td class=\"code\">\n            ",
   .markup part.codeHtml,
   .markup "\n          </td>\n        </tr>\n"]

/-- Where the documented file comes from. -/
def provenance (page : Revision) : List Piece :=
  [.markup "            <p><i>Viewing notes written by ",
   .value page.snapshot.author,
   .markup " for ",
   .value page.snapshot.sourceFile,
   .markup " at revision <a href=\"",
   .value page.snapshot.sourceLink,
   .markup "\">",
   .value page.snapshot.commit,
   .markup " (",
   .value page.snapshot.dateText,
   .markup ")</a>.",
   .markup (if page.others.isEmpty then ""
     else " Select other revisions via the menu to the right."),
   .markup "</i></p>\n"]

def revisionPieces (page : Revision) : List Piece :=
  documentStart ++ [.value page.snapshot.title] ++ afterTitle ++
    [.markup "../", .value page.stylesheetName] ++ bodyStart ++
    menu page.others ++
    [.markup "    <table cellpadding=\"0\" cellspacing=\"0\">\n",
     .markup "      <thead>\n        <tr>\n          <th class=\"docs\">\n",
     .markup "            <h1>",
     .value page.snapshot.title,
     .markup "</h1>\n"] ++
    provenance page ++
    [.markup "          </th>\n          <th class=\"code\"></th>\n",
     .markup "        </tr>\n      </thead>\n      <tbody>\n"] ++
    (page.sections.mapIdx row).flatten ++
    [.markup "      </tbody>\n    </table>\n  </div>\n</body>\n</html>\n"]

def renderRevision (page : Revision) : Text :=
  Html.render (revisionPieces page)

end Marginalia.Page
