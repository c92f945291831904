import Mathlib.Data.List.Basic

/-!
# Outcomes

An outcome is a value or a fault.  A computation in steps has a value exactly if
each of its steps has one.
-/

namespace Marginalia

variable {ε α β : Type}

@[simp]
theorem throw_eq_error (fault : ε) :
    (throw fault : Except ε α) = .error fault :=
  rfl

@[simp]
theorem pure_eq_ok (value : α) : (pure value : Except ε α) = .ok value :=
  rfl

@[simp]
theorem error_bind (fault : ε) (next : α → Except ε β) :
    (.error fault >>= next) = .error fault :=
  rfl

@[simp]
theorem ok_bind (value : α) (next : α → Except ε β) :
    (.ok value >>= next) = next value :=
  rfl

theorem exists_error_of_isOk {outcome : Except ε α}
    (failed : outcome.isOk = false) : ∃ fault, outcome = .error fault := by
  cases outcome with
  | error fault => exact ⟨fault, rfl⟩
  | ok value => cases failed

theorem eq_ok_of_toOption {outcome : Except ε α} {value : α}
    (found : outcome.toOption = some value) : outcome = .ok value := by
  cases outcome with
  | error fault => cases found
  | ok other => rw [Option.some.inj found]

theorem exists_mem_of_map_eq_map_ok {items : List α} {values : List β}
    {outcome : α → Except ε β} (all : items.map outcome = values.map .ok)
    {value : β} (member : value ∈ values) :
    ∃ item ∈ items, outcome item = .ok value := by
  apply List.mem_map.mp
  rw [all]
  exact List.mem_map.mpr ⟨value, member, rfl⟩

theorem map_eq_map_ok_of_toOption {items : List α} {values : List β}
    {outcome : α → Except ε β}
    (found : items.map (fun item => (outcome item).toOption) = values.map some) :
    items.map outcome = values.map .ok := by
  induction items generalizing values with
  | nil =>
      rw [List.map_nil, eq_comm, List.map_eq_nil_iff] at found
      rw [found, List.map_nil, List.map_nil]
  | cons item items inductionHypothesis =>
      cases values with
      | nil =>
          cases found
      | cons value values =>
          rw [List.map_cons, List.map_cons, List.cons.injEq] at found
          rw [List.map_cons, List.map_cons, eq_ok_of_toOption found.1,
            inductionHypothesis found.2]

theorem bind_eq_ok_iff {first : Except ε α} {next : α → Except ε β}
    {result : β} :
    first >>= next = .ok result ↔
      ∃ value, first = .ok value ∧ next value = .ok result := by
  cases first with
  | error fault =>
      constructor
      · intro impossible
        cases impossible
      · rintro ⟨value, impossible, _⟩
        cases impossible
  | ok value =>
      constructor
      · intro done
        exact ⟨value, rfl, done⟩
      · rintro ⟨other, same, done⟩
        cases same
        exact done

end Marginalia
