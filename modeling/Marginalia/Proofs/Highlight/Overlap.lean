import Marginalia.Proofs.Highlight.Source
import Mathlib.Data.List.Sublists
import Mathlib.Order.Interval.Finset.Nat

/-!
# Overlapping spans

Of spans that share a byte, the first one in the list is shown.  Rendering keeps
only the end of the last token, but for spans in the order of their starts this
is enough: a span that starts at or after that end shares no byte with any token
before it, and a span that starts before it shares a byte with the last token.
-/

namespace Marginalia

/-- The text can be cut at the byte offset: no character reaches across it. -/
def Text.HasBoundary (text : Text) (offset : Nat) : Prop :=
  ∃ before after, text = before ++ after ∧ byteLength before = offset

theorem Text.HasBoundary.exists_cut {before rest : Text} {offset : Nat}
    (boundary : HasBoundary (before ++ rest) offset)
    (beyond : byteLength before ≤ offset) :
    ∃ middle after, rest = middle ++ after ∧
      cutAtByte? rest (offset - byteLength before) = some (middle, after) := by
  obtain ⟨front, after, whole, frontLength⟩ := boundary
  rcases List.append_eq_append_iff.mp whole with
    ⟨middle, rfl, rfl⟩ | ⟨middle, rfl, rfl⟩
  · have middleLength : offset - byteLength before = byteLength middle + 0 := by
      rw [byteLength_append] at frontLength
      omega
    refine ⟨middle, after, rfl, ?_⟩
    rw [middleLength, cutAtByte?_append_add]
    cases after <;> simp [cutAtByte?]
  · -- The cut lies in the first text, so it lies at its end.
    have middleEmpty : byteLength middle = 0 := by
      rw [byteLength_append] at beyond
      omega
    have offsetEq : offset - byteLength (front ++ middle) = 0 := by
      rw [byteLength_append]
      omega
    refine ⟨[], rest, rfl, ?_⟩
    rw [offsetEq]
    cases rest <;> simp [cutAtByte?]

theorem Text.hasBoundary_iff {text : Text} {offset : Nat} :
    HasBoundary text offset ↔ (cutAtByte? text offset).isSome = true := by
  rw [Option.isSome_iff_exists]
  constructor
  · intro boundary
    obtain ⟨before, after, _, cut⟩ :=
      @HasBoundary.exists_cut [] text offset boundary (Nat.zero_le offset)
    exact ⟨(before, after), cut⟩
  · rintro ⟨⟨before, after⟩, cut⟩
    exact ⟨before, after, cutAtByte?_eq_some cut⟩

instance (text : Text) (offset : Nat) : Decidable (text.HasBoundary offset) :=
  decidable_of_iff _ Text.hasBoundary_iff.symm

namespace Highlight

/-! ## Bytes of a span -/

namespace Span

def bytes (span : Span) : Finset Nat :=
  Finset.Ico span.start span.stop

/-- The span covers at least one byte, and it starts and ends between two
characters of the code. -/
structure FitsIn (span : Span) (code : Text) : Prop where
  nonempty : span.start < span.stop
  start : Text.HasBoundary code span.start
  stop : Text.HasBoundary code span.stop

instance (span : Span) (code : Text) : Decidable (span.FitsIn code) :=
  decidable_of_iff
    (span.start < span.stop ∧ Text.HasBoundary code span.start ∧
      Text.HasBoundary code span.stop)
    ⟨fun ⟨nonempty, start, stop⟩ => ⟨nonempty, start, stop⟩,
      fun fits => ⟨fits.nonempty, fits.start, fits.stop⟩⟩

variable {span other : Span} {code before rest : Text}

theorem start_mem_bytes (nonempty : span.start < span.stop) :
    span.start ∈ span.bytes := by
  rw [bytes, Finset.mem_Ico]
  exact ⟨Nat.le_refl _, nonempty⟩

theorem disjoint_bytes_iff (ordered : span.start ≤ other.start)
    (nonempty : other.start < other.stop) :
    Disjoint span.bytes other.bytes ↔ span.stop ≤ other.start := by
  rw [Finset.disjoint_left]
  constructor
  · intro apart
    by_contra overlap
    have shared : other.start ∈ span.bytes := by
      rw [bytes, Finset.mem_Ico]
      omega
    exact apart shared (start_mem_bytes nonempty)
  · intro beyond byte inFirst inSecond
    rw [bytes, Finset.mem_Ico] at inFirst inSecond
    omega

/-- A span that fits in the code is cut out of what is left of it exactly if it
starts there. -/
theorem FitsIn.exists_cut (fits : span.FitsIn (before ++ rest))
    (beyond : Text.byteLength before ≤ span.start) :
    ∃ front inside after, rest = front ++ (inside ++ after) ∧
      Text.byteLength before + Text.byteLength front = span.start ∧
      span.start + Text.byteLength inside = span.stop ∧
      span.cut? (Text.byteLength before) rest = some (front, inside, after) := by
  obtain ⟨front, fromStart, restEq, cutStart⟩ := fits.start.exists_cut beyond
  have frontLength := (Text.cutAtByte?_eq_some cutStart).2
  have stopBoundary : Text.HasBoundary ((before ++ front) ++ fromStart) span.stop := by
    rw [List.append_assoc, ← restEq]
    exact fits.stop
  have startLength :
      Text.byteLength (before ++ front) = span.start := by
    rw [Text.byteLength_append]
    omega
  have ordered := fits.nonempty
  obtain ⟨inside, after, fromStartEq, cutStop⟩ :=
    stopBoundary.exists_cut (by omega)
  rw [startLength] at cutStop
  have insideLength := (Text.cutAtByte?_eq_some cutStop).2
  refine ⟨front, inside, after, by rw [restEq, fromStartEq], by omega, by omega, ?_⟩
  rw [cut?, if_pos ⟨beyond, by omega⟩, cutStart]
  simp [cutStop]

theorem cut?_eq_none {position : Nat} (early : span.start < position)
    (code : Text) : span.cut? position code = none := by
  rw [cut?, if_neg]
  omega

end Span

/-! ## Tokens of segments -/

/-- The tokens among some segments as spans, when the first segment starts at a
byte offset. -/
def tokensFrom (position : Nat) : List Segment → List Span
  | [] => []
  | ⟨text, none⟩ :: segments =>
      tokensFrom (position + Text.byteLength text) segments
  | ⟨text, some name⟩ :: segments =>
      ⟨position, position + Text.byteLength text, name⟩ ::
        tokensFrom (position + Text.byteLength text) segments

/-- A span with its place in a list. -/
abbrev PlacedSpan := Span × Nat

/-- Take each span that starts at or after the end of the last one taken. -/
def takenFrom (position : Nat) : List PlacedSpan → List PlacedSpan
  | [] => []
  | item :: items =>
      if position ≤ item.1.start then item :: takenFrom item.1.stop items
      else takenFrom position items

theorem takenFrom_sublist (position : Nat) (items : List PlacedSpan) :
    (takenFrom position items).Sublist items := by
  induction items generalizing position with
  | nil =>
      exact List.Sublist.refl []
  | cons item items inductionHypothesis =>
      rw [takenFrom]
      split
      · exact (inductionHypothesis item.1.stop).cons_cons item
      · exact (inductionHypothesis position).cons item

/-- The tokens of what is left of some code are the spans that are taken. -/
theorem tokensFrom_segmentsFrom {before rest : Text} {items : List PlacedSpan}
    (fit : ∀ item ∈ items, item.1.FitsIn (before ++ rest)) :
    tokensFrom (Text.byteLength before)
        (segmentsFrom (Text.byteLength before) rest (items.map Prod.fst)) =
      (takenFrom (Text.byteLength before) items).map Prod.fst := by
  -- The induction is on the spans, whatever part of the code is already shown.
  induction items generalizing before rest with
  | nil =>
      rfl
  | cons item items inductionHypothesis =>
      have fitsHere := fit item List.mem_cons_self
      have fitLater : ∀ other ∈ items, other.1.FitsIn (before ++ rest) :=
        fun other member => fit other (List.mem_cons_of_mem item member)
      rw [List.map_cons, takenFrom]
      by_cases beyond : Text.byteLength before ≤ item.1.start
      · obtain ⟨front, inside, after, rfl, frontLength, insideLength, cut⟩ :=
          fitsHere.exists_cut beyond
        have stopEq :
            Text.byteLength (before ++ (front ++ inside)) = item.1.stop := by
          rw [Text.byteLength_append, Text.byteLength_append]
          omega
        have later :=
          @inductionHypothesis (before ++ (front ++ inside)) after
            (by simpa only [List.append_assoc] using fitLater)
        rw [stopEq] at later
        rw [if_pos beyond, segmentsFrom_of_cut cut, tokensFrom, tokensFrom,
          frontLength, insideLength, later, List.map_cons]
      · have skipped := Span.cut?_eq_none (Nat.lt_of_not_le beyond) rest
        rw [if_neg beyond, segmentsFrom_of_skip skipped]
        exact inductionHypothesis fitLater

/-! ## The first span wins -/

/-- The order of placed spans: by place, and their starts follow it. -/
def PlacedSpan.Precedes (first second : PlacedSpan) : Prop :=
  first.2 < second.2 ∧ first.1.start ≤ second.1.start

theorem mem_takenFrom_iff {position : Nat} {items : List PlacedSpan}
    (inOrder : items.Pairwise PlacedSpan.Precedes)
    (nonempty : ∀ item ∈ items, item.1.start < item.1.stop)
    {item : PlacedSpan} (member : item ∈ items) :
    item ∈ takenFrom position items ↔
      position ≤ item.1.start ∧
        ∀ earlier ∈ takenFrom position items, earlier.2 < item.2 →
          Disjoint earlier.1.bytes item.1.bytes := by
  induction items generalizing position with
  | nil =>
      cases member
  | cons first items inductionHypothesis =>
      obtain ⟨firstPrecedes, restInOrder⟩ := List.pairwise_cons.mp inOrder
      have restNonempty : ∀ item ∈ items, item.1.start < item.1.stop :=
        fun other otherMember =>
          nonempty other (List.mem_cons_of_mem first otherMember)
      have laterPlace {start : Nat} {other : PlacedSpan}
          (taken : other ∈ takenFrom start items) : first.2 < other.2 :=
        (firstPrecedes other ((takenFrom_sublist start items).subset taken)).1
      rw [takenFrom]
      rcases List.mem_cons.mp member with rfl | inRest
      · -- Nothing is taken before the first item.
        by_cases beyond : position ≤ item.1.start
        · rw [if_pos beyond]
          refine ⟨fun _ => ⟨beyond, ?_⟩, fun _ => List.mem_cons_self⟩
          intro earlier taken isEarlier
          rcases List.mem_cons.mp taken with rfl | takenLater
          · exact absurd isEarlier (Nat.lt_irrefl _)
          · exact absurd isEarlier (Nat.lt_asymm (laterPlace takenLater))
        · rw [if_neg beyond]
          constructor
          · intro taken
            exact absurd (laterPlace taken) (Nat.lt_irrefl _)
          · intro both
            exact absurd both.1 beyond
      · obtain ⟨place, ordered⟩ := firstPrecedes item inRest
        by_cases beyond : position ≤ first.1.start
        · -- To start after the first item is to share no byte with it.
          have apartFromFirst :
              Disjoint first.1.bytes item.1.bytes ↔
                first.1.stop ≤ item.1.start :=
            Span.disjoint_bytes_iff ordered (restNonempty item inRest)
          have notFirst : item ≠ first := by
            rintro rfl
            exact Nat.lt_irrefl _ place
          have startsBeyond : position ≤ item.1.start := by
            omega
          rw [if_pos beyond, List.mem_cons, or_iff_right notFirst,
            inductionHypothesis restInOrder restNonempty inRest, List.forall_mem_cons,
            ← apartFromFirst]
          simp only [place, startsBeyond, true_imp_iff, true_and]
        · rw [if_neg beyond]
          exact inductionHypothesis restInOrder restNonempty inRest

section Sorted

variable {spans : List Span}
  (sorted : spans.Pairwise fun first second => first.start ≤ second.start)

include sorted

theorem pairwise_precedes_zipIdx :
    spans.zipIdx.Pairwise PlacedSpan.Precedes := by
  rw [List.pairwise_iff_getElem] at sorted ⊢
  intro first second firstBound secondBound earlier
  rw [List.length_zipIdx] at firstBound secondBound
  simp only [PlacedSpan.Precedes, List.getElem_zipIdx]
  exact ⟨by omega, sorted first second firstBound secondBound earlier⟩

theorem start_le_of_place_lt {first second : PlacedSpan}
    (firstMember : first ∈ spans.zipIdx) (secondMember : second ∈ spans.zipIdx)
    (earlier : first.2 < second.2) : first.1.start ≤ second.1.start := by
  rw [List.mem_zipIdx_iff_getElem?, List.getElem?_eq_some_iff]
    at firstMember secondMember
  obtain ⟨firstBound, firstEq⟩ := firstMember
  obtain ⟨secondBound, secondEq⟩ := secondMember
  have ordered :=
    List.pairwise_iff_getElem.mp sorted first.2 second.2 firstBound secondBound
      earlier
  rwa [firstEq, secondEq] at ordered

variable (nonempty : ∀ item ∈ spans.zipIdx, item.1.start < item.1.stop)

include nonempty

theorem mem_taken_iff {item : PlacedSpan} (member : item ∈ spans.zipIdx) :
    item ∈ takenFrom 0 spans.zipIdx ↔
      ∀ earlier ∈ takenFrom 0 spans.zipIdx, earlier.2 < item.2 →
        Disjoint earlier.1.bytes item.1.bytes := by
  rw [mem_takenFrom_iff (pairwise_precedes_zipIdx sorted) nonempty member]
  simp only [Nat.zero_le, true_and]

theorem exists_overlap_of_not_taken {item : PlacedSpan}
    (member : item ∈ spans.zipIdx) (notTaken : item ∉ takenFrom 0 spans.zipIdx) :
    ∃ earlier ∈ takenFrom 0 spans.zipIdx, earlier.2 < item.2 ∧
      ¬ Disjoint earlier.1.bytes item.1.bytes := by
  rw [mem_taken_iff sorted nonempty member] at notTaken
  push Not at notTaken
  exact notTaken

theorem not_taken_of_start_eq {first second : PlacedSpan}
    (firstMember : first ∈ spans.zipIdx) (secondMember : second ∈ spans.zipIdx)
    (earlier : first.2 < second.2) (sameStart : first.1.start = second.1.start) :
    second ∉ takenFrom 0 spans.zipIdx := by
  intro secondTaken
  -- The first one, or the span that keeps it out, covers the byte where both start.
  have covered :
      ∃ other ∈ takenFrom 0 spans.zipIdx, other.2 < second.2 ∧
        second.1.start ∈ other.1.bytes := by
    by_cases firstTaken : first ∈ takenFrom 0 spans.zipIdx
    · refine ⟨first, firstTaken, earlier, ?_⟩
      rw [← sameStart]
      exact Span.start_mem_bytes (nonempty first firstMember)
    · obtain ⟨other, otherTaken, before, overlap⟩ :=
        exists_overlap_of_not_taken sorted nonempty firstMember firstTaken
      have otherMember : other ∈ spans.zipIdx :=
        (takenFrom_sublist 0 spans.zipIdx).subset otherTaken
      have ordered : other.1.start ≤ first.1.start :=
        start_le_of_place_lt sorted otherMember firstMember before
      rw [Span.disjoint_bytes_iff ordered (nonempty first firstMember)] at overlap
      refine ⟨other, otherTaken, Nat.lt_trans before earlier, ?_⟩
      rw [Span.bytes, Finset.mem_Ico]
      omega
  obtain ⟨other, otherTaken, before, inOther⟩ := covered
  have apart : Disjoint other.1.bytes second.1.bytes :=
    (mem_taken_iff sorted nonempty secondMember).mp secondTaken other otherTaken
      before
  exact Finset.disjoint_left.mp apart inOther
    (Span.start_mem_bytes (nonempty second secondMember))

end Sorted

/-- For spans in the order of their starts that fit in the code, a span is shown
exactly if it shares no byte with a span shown earlier in the list.  What is
rendered is the code in segments, whose tokens are the spans shown.  So these are
disjoint and in order, each span left out shares a byte with a span shown before
it, and of those with one start only the first one can be shown. -/
theorem renderSpans_first_wins {code : Text} {spans : List Span}
    (sorted : spans.Pairwise fun first second => first.start ≤ second.start)
    (fit : ∀ span ∈ spans, span.FitsIn code) :
    ∃ (shown : List PlacedSpan) (segments : List Segment),
      renderSpans code spans =
        containerStart ++ segments.flatMap Segment.render ++ containerEnd ∧
      segments.flatMap Segment.text = code ∧
      tokensFrom 0 segments = shown.map Prod.fst ∧
      shown.Sublist spans.zipIdx ∧
      (∀ item ∈ spans.zipIdx,
        item ∈ shown ↔ ∀ earlier ∈ shown, earlier.2 < item.2 →
          Disjoint earlier.1.bytes item.1.bytes) ∧
      shown.Pairwise (fun first second =>
        Disjoint first.1.bytes second.1.bytes) ∧
      (∀ item ∈ spans.zipIdx, item ∉ shown →
        ∃ earlier ∈ shown, earlier.2 < item.2 ∧
          ¬ Disjoint earlier.1.bytes item.1.bytes) ∧
      ∀ first ∈ spans.zipIdx, ∀ second ∈ spans.zipIdx, first.2 < second.2 →
        first.1.start = second.1.start → second ∉ shown := by
  have fitItems : ∀ item ∈ spans.zipIdx, item.1.FitsIn code :=
    fun item member => fit item.1 (List.fst_mem_of_mem_zipIdx member)
  have nonempty : ∀ item ∈ spans.zipIdx, item.1.start < item.1.stop :=
    fun item member => (fitItems item member).nonempty
  have isSublist := takenFrom_sublist 0 spans.zipIdx
  have tokensEq := @tokensFrom_segmentsFrom [] code spans.zipIdx fitItems
  rw [List.zipIdx_map_fst] at tokensEq
  have inOrder := (pairwise_precedes_zipIdx sorted).sublist isSublist
  refine ⟨takenFrom 0 spans.zipIdx, segmentsFrom 0 code spans, rfl,
    flatMap_text_segmentsFrom 0 code spans, tokensEq, isSublist,
    fun item => mem_taken_iff sorted nonempty, ?_,
    fun item => exists_overlap_of_not_taken sorted nonempty,
    fun first firstMember second =>
      not_taken_of_start_eq sorted nonempty firstMember⟩
  refine inOrder.imp_of_mem fun {first second} firstTaken secondTaken precedes => ?_
  have secondMember : second ∈ spans.zipIdx := isSublist.subset secondTaken
  exact (mem_taken_iff sorted nonempty secondMember).mp secondTaken first firstTaken
    precedes.1

/-- A name captured twice, an escape inside a string and a span that starts in the
string and ends after it.  The rule leaves one choice of spans, and these are the
tokens of what is rendered. -/
theorem renderSpans_first_wins_nested :
    let code : Text := "né(\"a\\n\")"
    let spans : List Span :=
      [⟨0, 3, "nf"⟩, ⟨0, 3, "nv"⟩, ⟨4, 9, "s"⟩, ⟨6, 8, "se"⟩, ⟨8, 10, "p"⟩]
    renderSpans code spans =
      containerStart ++
        ("<span class=\"nf\">né</span>(" ++
          "<span class=\"s\">&quot;a\\n&quot;</span>)" : Text) ++ containerEnd ∧
    ∃ segments : List Segment,
      renderSpans code spans =
        containerStart ++ segments.flatMap Segment.render ++ containerEnd ∧
      segments.flatMap Segment.text = code ∧
      tokensFrom 0 segments = [⟨0, 3, "nf"⟩, ⟨4, 9, "s"⟩] := by
  intro code spans
  obtain ⟨shown, segments, rendered, texts, tokensEq, isSublist, chosen, _⟩ :=
    @renderSpans_first_wins code spans (by decide) (by decide)
  have oneChoice :
      ∀ shown ∈ spans.zipIdx.sublists,
        (∀ item ∈ spans.zipIdx,
          item ∈ shown ↔ ∀ earlier ∈ shown, earlier.2 < item.2 →
            Disjoint earlier.1.bytes item.1.bytes) →
        shown = [(⟨0, 3, "nf"⟩, 0), (⟨4, 9, "s"⟩, 2)] := by
    decide +kernel
  have shownEq := oneChoice shown (List.mem_sublists.mpr isSublist) chosen
  rw [shownEq] at tokensEq
  exact ⟨by decide, segments, rendered, texts, tokensEq⟩

end Highlight

end Marginalia
