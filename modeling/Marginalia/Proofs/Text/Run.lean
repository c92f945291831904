import Mathlib.Data.List.Nodup
import Mathlib.Data.List.TakeWhile

/-!
# Runs and places

A run is a list whose items all satisfy a predicate.  Where the item after a run
does not satisfy it, the run is the longest one at the start, so there is only
one way to cut it off.  In a list without repetitions an item has one place, and a
key that is not repeated has one value.
-/

namespace Marginalia

section Run

variable {α : Type} {inRun : α → Bool}

/-- A list that does not go on with a run. -/
def StopsRun (inRun : α → Bool) (rest : List α) : Prop :=
  ∀ first ∈ rest.head?, inRun first = false

@[simp]
theorem stopsRun_nil : StopsRun inRun [] := by
  intro first head
  cases head

theorem stopsRun_cons_iff {first : α} {rest : List α} :
    StopsRun inRun (first :: rest) ↔ inRun first = false := by
  simp [StopsRun]

theorem stopsRun_of_outside {items : List α}
    (outside : ∀ item ∈ items, inRun item = false) : StopsRun inRun items :=
  fun first head => outside first (List.mem_of_mem_head? head)

theorem StopsRun.append {items : List α} (stops : StopsRun inRun items)
    (nonempty : items ≠ []) (rest : List α) :
    StopsRun inRun (items ++ rest) := by
  obtain ⟨first, others, rfl⟩ := List.exists_cons_of_ne_nil nonempty
  rw [List.cons_append, stopsRun_cons_iff]
  exact stopsRun_cons_iff.mp stops

theorem StopsRun.of_append {items rest : List α}
    (stops : StopsRun inRun (items ++ rest)) : StopsRun inRun items := by
  cases items with
  | nil =>
      exact stopsRun_nil
  | cons first others =>
      rw [List.cons_append, stopsRun_cons_iff] at stops
      exact stopsRun_cons_iff.mpr stops

theorem stopsRun_dropWhile (items : List α) :
    StopsRun inRun (items.dropWhile inRun) := by
  intro first head
  have stopped := List.head?_dropWhile_not inRun items
  rw [Option.mem_def.mp head] at stopped
  simpa using stopped

theorem takeWhile_eq_nil_of_stopsRun {rest : List α}
    (stops : StopsRun inRun rest) : rest.takeWhile inRun = [] := by
  cases rest with
  | nil =>
      rfl
  | cons first rest =>
      have stopped := stopsRun_cons_iff.mp stops
      exact List.takeWhile_cons_of_neg (by simp [stopped])

theorem takeWhile_run_append {run rest : List α}
    (all : ∀ item ∈ run, inRun item = true) (stops : StopsRun inRun rest) :
    (run ++ rest).takeWhile inRun = run := by
  rw [List.takeWhile_append_of_pos all, takeWhile_eq_nil_of_stopsRun stops,
    List.append_nil]

theorem dropWhile_run_append {run rest : List α}
    (all : ∀ item ∈ run, inRun item = true) (stops : StopsRun inRun rest) :
    (run ++ rest).dropWhile inRun = rest := by
  have whole := List.takeWhile_append_dropWhile (p := inRun) (l := run ++ rest)
  rw [takeWhile_run_append all stops] at whole
  exact List.append_cancel_left whole

/-- The longest run at the start of a list is what every run there starts. -/
theorem leading_takeWhile_iff {leading items : List α} :
    leading <+: items.takeWhile inRun ↔
      leading <+: items ∧ ∀ item ∈ leading, inRun item = true := by
  constructor
  · intro short
    refine ⟨short.trans (List.takeWhile_prefix inRun), fun item member => ?_⟩
    exact List.mem_takeWhile_imp (short.subset member)
  · rintro ⟨⟨rest, rfl⟩, all⟩
    rw [List.takeWhile_append_of_pos all]
    exact List.prefix_append leading _

/-- There is only one way to cut a longest run off a list. -/
theorem run_append_inj {run run' rest rest' : List α}
    (all : ∀ item ∈ run, inRun item = true)
    (all' : ∀ item ∈ run', inRun item = true)
    (stops : StopsRun inRun rest) (stops' : StopsRun inRun rest')
    (same : run ++ rest = run' ++ rest') :
    run = run' ∧ rest = rest' := by
  have runEq : run = run' := by
    rw [← takeWhile_run_append all stops, same, takeWhile_run_append all' stops']
  subst runEq
  exact ⟨rfl, List.append_cancel_left same⟩

end Run

/-- A search for an item gives its place, if no item is repeated. -/
theorem findIdx?_beq_eq_some_iff {α : Type} [BEq α] [LawfulBEq α]
    {items : List α} (distinct : items.Nodup) {item : α} {index : Nat} :
    items.findIdx? (· == item) = some index ↔ items[index]? = some item := by
  rw [List.findIdx?_eq_some_iff_getElem, List.getElem?_eq_some_iff]
  constructor
  · rintro ⟨bound, same, _⟩
    exact ⟨bound, beq_iff_eq.mp same⟩
  · rintro ⟨bound, same⟩
    refine ⟨bound, beq_iff_eq.mpr same, fun earlier before found => ?_⟩
    have sameIndex :=
      (distinct.getElem_inj_iff).mp ((beq_iff_eq.mp found).trans same.symm)
    omega

/-- A value is found by its key, if no key is repeated. -/
theorem lookup_of_mem {α β : Type} [BEq α] [LawfulBEq α] {entries : List (α × β)}
    {key : α} {value : β} (distinct : (entries.map Prod.fst).Nodup)
    (member : (key, value) ∈ entries) :
    entries.lookup key = some value := by
  induction entries with
  | nil =>
      cases member
  | cons pair entries inductionHypothesis =>
      obtain ⟨fresh, restDistinct⟩ := List.nodup_cons.mp distinct
      rcases List.mem_cons.mp member with rfl | later
      · exact List.lookup_cons_self
      · have different : (key == pair.1) = false := by
          rw [beq_eq_false_iff_ne]
          intro same
          exact fresh (List.mem_map.mpr ⟨(key, value), later, same⟩)
        rw [List.lookup_cons, different]
        exact inductionHypothesis restDistinct later

end Marginalia
