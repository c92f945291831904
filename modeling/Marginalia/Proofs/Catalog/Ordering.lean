import Marginalia.Proofs.Catalog.Grouping
import Mathlib.Data.List.Basic

/-!
# The order of revisions

Sorting is stable: items that the sorting does not tell apart keep their order.
So the snapshots of a group come from the newest to the oldest, and those of one
date in the order in which the group was given them.
-/

namespace Marginalia

/-! ## Dates -/

namespace CalendarDate

def Before (first second : CalendarDate) : Prop :=
  first.year < second.year ∨
    first.year = second.year ∧
      (first.month < second.month ∨
        first.month = second.month ∧ first.day < second.day)

theorem notAfter_iff {first second : CalendarDate} :
    first.notAfter second = true ↔ first.Before second ∨ first = second := by
  rcases first with ⟨year, month, day⟩
  rcases second with ⟨otherYear, otherMonth, otherDay⟩
  simp only [notAfter, Before, Bool.or_eq_true, Bool.and_eq_true,
    decide_eq_true_eq, beq_iff_eq, CalendarDate.mk.injEq]
  omega

theorem notAfter_trans (first second third : CalendarDate)
    (earlier : first.notAfter second = true)
    (later : second.notAfter third = true) : first.notAfter third = true := by
  rw [notAfter_iff] at earlier later ⊢
  rcases earlier with before | rfl
  · rcases later with after | rfl
    · left
      simp only [Before] at before after ⊢
      omega
    · exact Or.inl before
  · exact later

theorem notAfter_total (first second : CalendarDate) :
    (first.notAfter second || second.notAfter first) = true := by
  rcases first with ⟨year, month, day⟩
  rcases second with ⟨otherYear, otherMonth, otherDay⟩
  rw [Bool.or_eq_true, notAfter_iff, notAfter_iff]
  simp only [Before, CalendarDate.mk.injEq]
  omega

end CalendarDate

/-! ## Stable sorting -/

/-- Items in some order are still in this order after sorting where the sorting
does not tell them apart. -/
theorem pairwise_mergeSort_of_pairwise {α : Type} {le : α → α → Bool}
    (trans : ∀ first second third, le first second = true →
      le second third = true → le first third = true)
    (total : ∀ first second, (le first second || le second first) = true)
    {earlier : α → α → Prop} {items : List α} (inOrder : items.Pairwise earlier) :
    (items.mergeSort le).Pairwise fun first second =>
      le first second = true ∧ (le second first = true → earlier first second) := by
  -- Each item carries its position, which decides where the sorting does not.
  let sorted := items.zipIdx.mergeSort (List.zipIdxLE le)
  have sortedOrder :
      sorted.Pairwise fun first second => List.zipIdxLE le first second = true :=
    List.pairwise_mergeSort (List.zipIdxLE_trans trans)
      (List.zipIdxLE_total total) items.zipIdx
  have samePositions : sorted.Perm items.zipIdx := List.mergeSort_perm _ _
  have distinct : (sorted.map Prod.snd).Nodup := by
    rw [(samePositions.map Prod.snd).nodup_iff, List.zipIdx_map_snd]
    exact List.nodup_range'
  rw [List.Nodup, List.pairwise_map] at distinct
  rw [← List.mergeSort_zipIdx, List.pairwise_map]
  refine (sortedOrder.and distinct).imp_of_mem
    fun {first second} member otherMember order => ?_
  obtain ⟨inSorting, differentPlace⟩ := order
  rw [List.zipIdxLE] at inSorting
  rw [samePositions.mem_iff, List.mem_zipIdx_iff_getElem?] at member otherMember
  split at inSorting
  · next atMost =>
      refine ⟨atMost, fun alike => ?_⟩
      rw [if_pos alike, decide_eq_true_iff] at inSorting
      obtain ⟨bound, itemEq⟩ := List.getElem?_eq_some_iff.mp member
      obtain ⟨otherBound, otherEq⟩ := List.getElem?_eq_some_iff.mp otherMember
      have ordered :=
        List.pairwise_iff_getElem.mp inOrder first.2 second.2 bound otherBound
          (Nat.lt_of_le_of_ne inSorting differentPlace)
      rwa [itemEq, otherEq] at ordered
  · cases inSorting

/-! ## Groups -/

/-- The snapshots of a group come from the newest to the oldest, and those of one
date in the order in which they were given. -/
theorem Group.pairwise_ofSnapshots {snapshots : List Snapshot}
    {earlier : Snapshot → Snapshot → Prop} (inOrder : snapshots.Pairwise earlier)
    (name : Text) :
    (Group.ofSnapshots name snapshots).snapshots.Pairwise fun first second =>
      second.date.Before first.date ∨
        first.date = second.date ∧ earlier first second := by
  have sorted :=
    @pairwise_mergeSort_of_pairwise Snapshot
      (fun first second => second.date.notAfter first.date)
      (fun first second third newer older =>
        CalendarDate.notAfter_trans third.date second.date first.date older newer)
      (fun first second => CalendarDate.notAfter_total second.date first.date)
      earlier snapshots inOrder
  refine sorted.imp fun {first second} order => ?_
  obtain ⟨notAfter, ofOneDate⟩ := order
  rcases CalendarDate.notAfter_iff.mp notAfter with before | same
  · exact Or.inl before
  · right
    exact ⟨same.symm, ofOneDate (CalendarDate.notAfter_iff.mpr (Or.inr same.symm))⟩

end Marginalia
