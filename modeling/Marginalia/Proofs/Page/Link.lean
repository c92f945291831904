import Marginalia.Page.Index
import Marginalia.Proofs.Html.Link

/-!
# Links on pages

The landing page links to the index of each artifact, the index of an artifact to
the page of each revision, and the menu of a page to the pages of the other
revisions.  Every page links to the stylesheet in the root of the site.
-/

namespace Marginalia.Page

open Html (Piece IsMark FreeOf freeOf_markup freeOf_nil linksAfter)

/-! ## Reading links -/

/-- The start of a list item that is a link. -/
def itemMark : Text := "<li><a href=\""

/-- The start of a menu entry. -/
def menuMark : Text := "<a class=\"source\" href=\""

/-- The start of a link to a stylesheet. -/
def stylesheetMark : Text := "<link rel=\"stylesheet\" media=\"all\" href=\""

/-- The end of the head of a page. -/
def headMark : Text := "</head>"

/-- The start of the table of sections. -/
def tableMark : Text := "<table"

def itemLinks (html : Text) : List Text :=
  linksAfter itemMark html

/-- The links of the menu of a page.  It stands in front of the sections. -/
def menuLinks (html : Text) : List Text :=
  linksAfter menuMark (Html.frontOf tableMark html)

/-- The links to stylesheets in the head of a page. -/
def stylesheetLinks (html : Text) : List Text :=
  linksAfter stylesheetMark (Html.frontOf headMark html)

theorem isMark_itemMark : IsMark itemMark :=
  .of_literal rfl ⟨rfl, by decide⟩

theorem isMark_menuMark : IsMark menuMark :=
  .of_literal rfl ⟨rfl, by decide⟩

theorem isMark_stylesheetMark : IsMark stylesheetMark :=
  .of_literal rfl ⟨rfl, by decide⟩

theorem isMark_headMark : IsMark headMark :=
  .of_literal rfl ⟨rfl, by decide⟩

theorem isMark_tableMark : IsMark tableMark :=
  .of_literal rfl ⟨rfl, by decide⟩

/-! ## Items -/

theorem not_mem_escape (text : Text) :
    '<' ∉ Html.escape text ∧ '"' ∉ Html.escape text :=
  ⟨Html.not_mem_escape_of_significant text (by decide),
    Html.not_mem_escape_of_significant text (by decide)⟩

/-- The address of the index of an artifact, as the landing page writes it. -/
def artifactLink (name : Text) : Text :=
  name ++ '/' :: "index.html"

theorem itemOpening_eq :
    "          <li><a href=\"".toList = "          ".toList ++ itemMark :=
  Html.toList_literal_append rfl rfl rfl

@[simp]
theorem linksAfter_artifactItem (name rest : Text) :
    linksAfter itemMark (Html.render (artifactItem name) ++ rest) =
      artifactLink name :: linksAfter itemMark rest := by
  have addressEnd :
      "/index.html\">".toList = "/index.html".toList ++ "\">".toList :=
    Html.toList_literal_append rfl rfl rfl
  have itemEq :
      Html.render (artifactItem name) =
        "          ".toList ++ (itemMark ++
          ((Html.escape name ++ "/index.html".toList) ++
            Html.render [.markup "\">", .value name, .markup "</a></li>\n"])) := by
    show "          <li><a href=\"".toList ++ (Html.escape name ++
      ("/index.html\">".toList ++ (Html.escape name ++ _))) = _
    rw [itemOpening_eq, addressEnd, List.append_assoc, List.append_assoc,
      List.append_assoc]
    rfl
  have endingFree :
      FreeOf itemMark
        (Html.render [.markup "\">", .value name, .markup "</a></li>\n"]) := by
    refine freeOf_markup rfl ?_ <| isMark_itemMark.freeOf_value name <|
      freeOf_markup rfl ?_ <| freeOf_nil _ <;> decide
  obtain ⟨noTag, noQuote⟩ := not_mem_escape name
  rw [isMark_itemMark.linksAfter_item itemEq (isMark_itemMark.freeOf (by decide))
    (by simpa using noTag) (by simpa using noQuote) rfl endingFree,
    Html.unescape_escape_append]
  rfl

@[simp]
theorem linksAfter_revisionItem (snapshot : Snapshot) (rest : Text) :
    linksAfter itemMark (Html.render (revisionItem snapshot) ++ rest) =
      snapshot.pageName :: linksAfter itemMark rest := by
  have itemEq :
      Html.render (revisionItem snapshot) =
        "          ".toList ++ (itemMark ++ (Html.escape snapshot.pageName ++
          Html.render [.markup "\">", .value snapshot.dateText, .markup " (",
            .value snapshot.sourceFile, .markup ")</a></li>\n"])) := by
    show "          <li><a href=\"".toList ++ _ = _
    rw [itemOpening_eq, List.append_assoc]
    rfl
  have endingFree :
      FreeOf itemMark
        (Html.render [.markup "\">", .value snapshot.dateText, .markup " (",
          .value snapshot.sourceFile, .markup ")</a></li>\n"]) := by
    refine freeOf_markup rfl ?_ <| isMark_itemMark.freeOf_value _ <|
      freeOf_markup rfl ?_ <| isMark_itemMark.freeOf_value _ <|
      freeOf_markup rfl ?_ <| freeOf_nil _ <;> decide
  obtain ⟨noTag, noQuote⟩ := not_mem_escape snapshot.pageName
  rw [isMark_itemMark.linksAfter_item itemEq (isMark_itemMark.freeOf (by decide))
    noTag noQuote rfl endingFree, Html.unescape_escape]

@[simp]
theorem linksAfter_menuEntry (other : Snapshot) (rest : Text) :
    linksAfter menuMark (Html.render (menuEntry other) ++ rest) =
      other.pageName :: linksAfter menuMark rest := by
  have opening :
      "            <a class=\"source\" href=\"".toList =
        "            ".toList ++ menuMark :=
    Html.toList_literal_append rfl rfl rfl
  have entryEq :
      Html.render (menuEntry other) =
        "            ".toList ++ (menuMark ++ (Html.escape other.pageName ++
          Html.render [.markup "\">", .value other.dateText, .markup "</a>\n"])) := by
    show "            <a class=\"source\" href=\"".toList ++ _ = _
    rw [opening, List.append_assoc]
    rfl
  have endingFree :
      FreeOf menuMark
        (Html.render [.markup "\">", .value other.dateText, .markup "</a>\n"]) := by
    refine freeOf_markup rfl ?_ <| isMark_menuMark.freeOf_value _ <|
      freeOf_markup rfl ?_ <| freeOf_nil _ <;> decide
  obtain ⟨noTag, noQuote⟩ := not_mem_escape other.pageName
  rw [isMark_menuMark.linksAfter_item entryEq (isMark_menuMark.freeOf (by decide))
    noTag noQuote rfl endingFree, Html.unescape_escape]

/-! ## The head of a page -/

/-- The pieces of a page up to the start of its body. -/
def headPieces (title address : List Piece) : List Piece :=
  documentStart ++ title ++ afterTitle ++ address ++ bodyStart

/-- The head between the title and the link to the stylesheet. -/
def titleEnd : List Piece :=
  [.markup "</title>\n",
   .markup "  <meta http-equiv=\"content-type\" content=\"text/html; ",
   .markup "charset=UTF-8\">\n",
   .markup "  "]

theorem render_afterTitle :
    Html.render afterTitle = Html.render titleEnd ++ stylesheetMark := by
  have opening :
      "  <link rel=\"stylesheet\" media=\"all\" href=\"".toList =
        "  ".toList ++ stylesheetMark :=
    Html.toList_literal_append rfl rfl rfl
  show _ ++ (_ ++ (_ ++
    ("  <link rel=\"stylesheet\" media=\"all\" href=\"".toList ++ []))) = _
  rw [opening, List.append_nil]
  show _ = (_ ++ (_ ++ (_ ++ ("  ".toList ++ [])))) ++ stylesheetMark
  rw [List.append_nil, List.append_assoc, List.append_assoc, List.append_assoc]

/-- What follows the address of the stylesheet, up to the end of the head. -/
def addressEnd : Text := "\" />\n"

/-- What follows the head, up to the content of the page. -/
def bodyOpening : List Piece :=
  [.markup "\n<body>\n  <div id=\"container\">\n",
   .markup "    <div id=\"background\"></div>\n"]

theorem render_bodyStart :
    Html.render bodyStart = addressEnd ++ (headMark ++ Html.render bodyOpening) := by
  have opening :
      "\" />\n</head>\n<body>\n  <div id=\"container\">\n".toList =
        addressEnd ++ "</head>\n<body>\n  <div id=\"container\">\n".toList :=
    Html.toList_literal_append rfl rfl rfl
  have closing :
      "</head>\n<body>\n  <div id=\"container\">\n".toList =
        headMark ++ "\n<body>\n  <div id=\"container\">\n".toList :=
    Html.toList_literal_append rfl rfl rfl
  show "\" />\n</head>\n<body>\n  <div id=\"container\">\n".toList ++ _ = _
  rw [opening, closing, List.append_assoc, List.append_assoc]
  rfl

/-- The link to the stylesheet is the address that the head has for it. -/
theorem stylesheetLinks_render {title address pieces : List Piece}
    (starts : headPieces title address <+: pieces)
    (titleAbsent : '<' ∉ Html.render title)
    (absent : '<' ∉ Html.render address) (unquoted : '"' ∉ Html.render address) :
    stylesheetLinks (Html.render pieces) =
      [Html.unescape (Html.render address)] := by
  obtain ⟨more, rfl⟩ := starts
  have frontFree {mark : Text} (isMark : IsMark mark)
      (startFree : FreeOf mark (Html.render documentStart))
      (endFree : FreeOf mark (Html.render titleEnd)) :
      FreeOf mark
        (Html.render documentStart ++ (Html.render title ++ Html.render titleEnd)) :=
    startFree.append ((isMark.freeOf titleAbsent).append endFree)
  have frontFreeOfHead :
      FreeOf headMark
        (Html.render documentStart ++ (Html.render title ++ Html.render titleEnd)) := by
    refine frontFree isMark_headMark (freeOf_markup rfl ?_ (freeOf_nil _))
      (freeOf_markup rfl ?_ <| freeOf_markup rfl ?_ <| freeOf_markup rfl ?_ <|
        freeOf_markup rfl ?_ <| freeOf_nil _) <;> decide
  have frontFreeOfLink :
      FreeOf stylesheetMark
        (Html.render documentStart ++ (Html.render title ++ Html.render titleEnd)) := by
    refine frontFree isMark_stylesheetMark (freeOf_markup rfl ?_ (freeOf_nil _))
      (freeOf_markup rfl ?_ <| freeOf_markup rfl ?_ <| freeOf_markup rfl ?_ <|
        freeOf_markup rfl ?_ <| freeOf_nil _) <;> decide
  have linkFree : FreeOf headMark stylesheetMark :=
    Html.freeOf_literal rfl (by decide)
  have endAbsent : '<' ∉ addressEnd := by
    decide
  have headEq :
      Html.frontOf headMark (Html.render (headPieces title address ++ more)) =
        Html.render documentStart ++ (Html.render title ++ Html.render titleEnd) ++
          (stylesheetMark ++ (Html.render address ++ addressEnd)) := by
    rw [← isMark_headMark.frontOf_append_mark
      (frontFreeOfHead.append (linkFree.append
        ((isMark_headMark.freeOf absent).append (isMark_headMark.freeOf endAbsent))))
      (Html.render bodyOpening ++ Html.render more)]
    simp only [headPieces, Html.render_append, render_afterTitle, render_bodyStart,
      List.append_assoc]
  rw [stylesheetLinks, headEq, Html.linksAfter_append frontFreeOfLink,
    isMark_stylesheetMark.linksAfter_link absent unquoted rfl,
    Html.linksAfter_eq_nil (isMark_stylesheetMark.freeOf endAbsent)]

/-- The marks that stand in the body only. -/
def bodyMarks : List Text := [itemMark, menuMark, tableMark]

theorem freeOf_headPieces {mark : Text} (isMark : IsMark mark)
    (known : mark ∈ bodyMarks) {title address : List Piece}
    (titleAbsent : '<' ∉ Html.render title)
    (addressAbsent : '<' ∉ Html.render address) :
    FreeOf mark (Html.render (headPieces title address)) := by
  have free {chars : Text} (allFree : ∀ mark ∈ bodyMarks, FreeOf mark chars) :
      FreeOf mark chars :=
    allFree mark known
  have startFree : FreeOf mark (Html.render documentStart) := by
    refine freeOf_markup rfl (free ?_) (freeOf_nil _)
    decide
  have afterFree : FreeOf mark (Html.render afterTitle) := by
    refine freeOf_markup rfl (free ?_) <| freeOf_markup rfl (free ?_) <|
      freeOf_markup rfl (free ?_) <| freeOf_markup rfl (free ?_) <| freeOf_nil _ <;>
      decide
  have bodyFree : FreeOf mark (Html.render bodyStart) := by
    refine freeOf_markup rfl (free ?_) <| freeOf_markup rfl (free ?_) <|
      freeOf_nil _ <;> decide
  simp only [headPieces, Html.render_append]
  exact (((startFree.append (isMark.freeOf titleAbsent)).append afterFree).append
    (isMark.freeOf addressAbsent)).append bodyFree

/-! ## Addresses in the head -/

theorem not_mem_render_value (text : Text) :
    '<' ∉ Html.render [.value text] ∧ '"' ∉ Html.render [.value text] := by
  have valueEq : Html.render [.value text] = Html.escape text := List.append_nil _
  rw [valueEq]
  exact not_mem_escape text

/-- The address of the stylesheet on a page in the directory of an artifact. -/
theorem render_address (stylesheetName : Text) :
    Html.render [.markup "../", .value stylesheetName] =
      '.' :: '.' :: '/' :: Html.escape stylesheetName :=
  congrArg (fun escaped => '.' :: '.' :: '/' :: escaped) (List.append_nil _)

theorem not_mem_render_address (stylesheetName : Text) :
    '<' ∉ Html.render [.markup "../", .value stylesheetName] ∧
      '"' ∉ Html.render [.markup "../", .value stylesheetName] := by
  obtain ⟨noTag, noQuote⟩ := not_mem_escape stylesheetName
  rw [render_address]
  exact ⟨by simpa using noTag, by simpa using noQuote⟩

theorem not_mem_render_siteTitle : '<' ∉ Html.render [.markup siteTitle] := by
  decide

theorem stylesheetLinks_renderLanding (catalog : Catalog) (stylesheetName : Text) :
    stylesheetLinks (renderLanding catalog stylesheetName) = [stylesheetName] := by
  have starts :
      headPieces [.markup siteTitle] [.value stylesheetName] <+:
        landingPieces catalog stylesheetName := by
    rw [landingPieces, List.append_assoc, List.append_assoc]
    exact List.prefix_append _ _
  obtain ⟨noTag, noQuote⟩ := not_mem_render_value stylesheetName
  rw [renderLanding,
    stylesheetLinks_render starts not_mem_render_siteTitle noTag noQuote]
  exact congrArg ([·]) ((congrArg Html.unescape (List.append_nil _)).trans
    (Html.unescape_escape stylesheetName))

/-- On a page in the directory of an artifact. -/
theorem stylesheetLinks_render_below {title stylesheetName : Text}
    {pieces : List Piece}
    (starts : headPieces [.value title]
      [.markup "../", .value stylesheetName] <+: pieces) :
    stylesheetLinks (Html.render pieces) = ['.' :: '.' :: '/' :: stylesheetName] := by
  obtain ⟨noTag, noQuote⟩ := not_mem_render_address stylesheetName
  rw [stylesheetLinks_render starts (not_mem_render_value title).1 noTag noQuote,
    render_address, Html.unescape_cons (by decide), Html.unescape_cons (by decide),
    Html.unescape_cons (by decide), Html.unescape_escape]

theorem stylesheetLinks_renderArtifactIndex (group : Group)
    (stylesheetName : Text) :
    stylesheetLinks (renderArtifactIndex group stylesheetName) =
      ['.' :: '.' :: '/' :: stylesheetName] := by
  have starts :
      headPieces [.value group.name] [.markup "../", .value stylesheetName] <+:
        artifactIndexPieces group stylesheetName := by
    rw [artifactIndexPieces, List.append_assoc, List.append_assoc]
    exact List.prefix_append _ _
  exact stylesheetLinks_render_below starts

theorem stylesheetLinks_renderRevision (page : Revision) :
    stylesheetLinks (renderRevision page) =
      ['.' :: '.' :: '/' :: page.stylesheetName] := by
  have starts :
      headPieces [.value page.snapshot.title]
          [.markup "../", .value page.stylesheetName] <+:
        revisionPieces page := by
    rw [revisionPieces, List.append_assoc, List.append_assoc, List.append_assoc,
      List.append_assoc, List.append_assoc]
    exact List.prefix_append _ _
  exact stylesheetLinks_render_below starts

/-! ## Lists of links -/

theorem itemLinks_renderLanding (catalog : Catalog) (stylesheetName : Text) :
    itemLinks (renderLanding catalog stylesheetName) =
      catalog.names.map artifactLink := by
  rw [itemLinks, renderLanding, landingPieces, ← List.append_nil (Html.render _)]
  refine (Html.linksAfter_list linksAfter_artifactItem ?_ ?_ _ _).trans
    (List.append_nil _)
  · rw [Html.render_append]
    refine (freeOf_headPieces isMark_itemMark (by simp [bodyMarks])
      not_mem_render_siteTitle (not_mem_render_value stylesheetName).1).append ?_
    refine freeOf_markup rfl ?_ <| freeOf_markup rfl ?_ <| freeOf_markup rfl ?_ <|
      freeOf_markup rfl ?_ <| freeOf_markup rfl ?_ <| freeOf_markup rfl ?_ <|
      freeOf_markup rfl ?_ <| freeOf_markup rfl ?_ <| freeOf_nil _ <;> decide +kernel
  · refine freeOf_markup rfl ?_ <| freeOf_markup rfl ?_ <| freeOf_markup rfl ?_ <|
      freeOf_markup rfl ?_ <| freeOf_markup rfl ?_ <| freeOf_markup rfl ?_ <|
      freeOf_nil _ <;> decide +kernel

theorem itemLinks_renderArtifactIndex (group : Group) (stylesheetName : Text) :
    itemLinks (renderArtifactIndex group stylesheetName) =
      group.snapshots.map Snapshot.pageName := by
  rw [itemLinks, renderArtifactIndex, artifactIndexPieces,
    ← List.append_nil (Html.render _)]
  refine (Html.linksAfter_list linksAfter_revisionItem ?_ ?_ _ _).trans
    (List.append_nil _)
  · rw [Html.render_append]
    refine (freeOf_headPieces isMark_itemMark (by simp [bodyMarks])
      (not_mem_render_value group.name).1
      (not_mem_render_address stylesheetName).1).append ?_
    refine freeOf_markup rfl ?_ <| isMark_itemMark.freeOf_value group.name <|
      freeOf_markup rfl ?_ <| freeOf_markup rfl ?_ <| freeOf_nil _ <;> decide
  · refine freeOf_markup rfl ?_ <| freeOf_nil _
    decide

theorem linksAfter_menu (others : List Snapshot) (rest : Text) :
    linksAfter menuMark (Html.render (menu others) ++ rest) =
      others.map Snapshot.pageName ++ linksAfter menuMark rest := by
  rw [menu]
  split
  · next none =>
      rw [List.isEmpty_iff.mp none]
      rfl
  · refine Html.linksAfter_list linksAfter_menuEntry ?_ ?_ others rest
    · refine freeOf_markup rfl ?_ <| freeOf_markup rfl ?_ <| freeOf_markup rfl ?_ <|
        freeOf_nil _ <;> decide
    · refine freeOf_markup rfl ?_ <| freeOf_nil _
      decide

theorem freeOf_menu (others : List Snapshot) :
    FreeOf tableMark (Html.render (menu others)) := by
  have entriesFree : FreeOf tableMark (Html.render (others.flatMap menuEntry)) := by
    induction others with
    | nil =>
        exact freeOf_nil _
    | cons other others inductionHypothesis =>
        rw [List.flatMap_cons, Html.render_append]
        refine FreeOf.append ?_ inductionHypothesis
        refine freeOf_markup rfl ?_ <| isMark_tableMark.freeOf_value _ <|
          freeOf_markup rfl ?_ <| isMark_tableMark.freeOf_value _ <|
          freeOf_markup rfl ?_ <| freeOf_nil _ <;> decide
  rw [menu]
  split
  · exact freeOf_nil _
  · rw [Html.render_append, Html.render_append]
    refine FreeOf.append (FreeOf.append ?_ entriesFree) ?_
    · refine freeOf_markup rfl ?_ <| freeOf_markup rfl ?_ <| freeOf_markup rfl ?_ <|
        freeOf_nil _ <;> decide
    · refine freeOf_markup rfl ?_ <| freeOf_nil _
      decide

/-- The table of sections starts with its mark. -/
theorem exists_render_table (pieces : List Piece) :
    ∃ more, Html.render
        (.markup "    <table cellpadding=\"0\" cellspacing=\"0\">\n" :: pieces) =
      "    ".toList ++ (tableMark ++ more) := by
  have opening :
      "    <table cellpadding=\"0\" cellspacing=\"0\">\n".toList =
        "    ".toList ++ "<table cellpadding=\"0\" cellspacing=\"0\">\n".toList :=
    Html.toList_literal_append rfl rfl rfl
  have tableOpening :
      "<table cellpadding=\"0\" cellspacing=\"0\">\n".toList =
        tableMark ++ " cellpadding=\"0\" cellspacing=\"0\">\n".toList :=
    Html.toList_literal_append rfl rfl rfl
  refine ⟨" cellpadding=\"0\" cellspacing=\"0\">\n".toList ++ Html.render pieces, ?_⟩
  show "    <table cellpadding=\"0\" cellspacing=\"0\">\n".toList ++ _ = _
  rw [opening, tableOpening, List.append_assoc, List.append_assoc]
  rfl

theorem menuLinks_renderRevision (page : Revision) :
    menuLinks (renderRevision page) = page.others.map Snapshot.pageName := by
  rw [renderRevision, revisionPieces, List.append_assoc, List.append_assoc,
    List.append_assoc, List.append_assoc, List.cons_append, Html.render_append,
    Html.render_append]
  -- What follows the start of the table is not looked at: its sections may hold
  -- any markup.
  obtain ⟨more, tableEq⟩ := exists_render_table _
  have headFree {mark : Text} (isMark : IsMark mark) (known : mark ∈ bodyMarks) :
      FreeOf mark (Html.render (headPieces [.value page.snapshot.title]
        [.markup "../", .value page.stylesheetName])) :=
    freeOf_headPieces isMark known (not_mem_render_value _).1
      (not_mem_render_address _).1
  have spaceFree {mark : Text} (isMark : IsMark mark) :
      FreeOf mark "    ".toList :=
    isMark.freeOf (by decide)
  show menuLinks (Html.render (headPieces _ _) ++ _ ++ _) = _
  rw [tableEq, menuLinks, ← List.append_assoc,
    isMark_tableMark.frontOf_append_mark
      (((headFree isMark_tableMark (by simp [bodyMarks])).append
        (freeOf_menu page.others)).append (spaceFree isMark_tableMark)) more,
    List.append_assoc,
    Html.linksAfter_append (headFree isMark_menuMark (by simp [bodyMarks])),
    linksAfter_menu, Html.linksAfter_eq_nil (spaceFree isMark_menuMark),
    List.append_nil]

end Marginalia.Page
