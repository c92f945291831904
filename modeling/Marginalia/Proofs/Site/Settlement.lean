import Marginalia.Proofs.Site.Work

/-!
# Settling the outcomes of tasks

One policy stops at the first failure and the other goes through all outcomes.
Their answers are compared case by case: all tasks succeed, one fails, or several
do.  The failures themselves may be collections.
-/

namespace Marginalia
namespace FailurePolicy

variable {α : Type}

/-- What the two policies answer to some outcomes.  The answer of the policy that
stops at a failure comes first. -/
inductive Settled (results : List (Except Failure α)) :
    Except Failure (List α) → Except Failure (List α) → Prop
  | values {values : List α} :
      results = values.map .ok →
      Settled results (.ok values) (.ok values)
  | single {before after : List α} {failure : Failure} :
      results = before.map .ok ++ .error failure :: after.map .ok →
      Settled results (.error failure) (.error failure)
  | several {before : List α} {rest : List (Except Failure α)}
      {first second : Failure} {later : List Failure} :
      results = before.map .ok ++ .error first :: rest →
      failuresOf rest = second :: later →
      Settled results (.error first)
        (.error (.aggregate (first :: second :: later) results.length))

/-! ## The first failure -/

theorem failuresOf_of_first {results rest : List (Except Failure α)}
    {before : List α} {first : Failure}
    (parts : results = before.map .ok ++ .error first :: rest) :
    failuresOf results = first :: failuresOf rest := by
  rw [parts, failuresOf_map_ok_append, failuresOf_cons_error]

theorem exists_first {results : List (Except Failure α)} {first : Failure}
    {later : List Failure} (failed : failuresOf results = first :: later) :
    ∃ (before : List α) (rest : List (Except Failure α)),
      results = before.map .ok ++ .error first :: rest ∧
        failuresOf rest = later := by
  induction results with
  | nil =>
      cases failed
  | cons result results inductionHypothesis =>
      cases result with
      | error failure =>
          have parts : failure = first ∧ failuresOf results = later :=
            List.cons.inj failed
          exact ⟨[], results, by rw [parts.1]; rfl, parts.2⟩
      | ok value =>
          have failedLater : failuresOf results = first :: later := failed
          obtain ⟨before, rest, resultsEq, restEq⟩ :=
            inductionHypothesis failedLater
          exact ⟨value :: before, rest, by rw [resultsEq]; rfl, restEq⟩

/-! ## Both policies -/

theorem settled_settle (results : List (Except Failure α)) :
    Settled results (failFast.settle results) (collectAll.settle results) := by
  cases failed : failuresOf results with
  | nil =>
      rw [settle_of_no_failure failed, settle_of_no_failure failed]
      exact .values (failuresOf_eq_nil_iff.mp failed)
  | cons first later =>
      obtain ⟨before, rest, resultsEq, restEq⟩ := exists_first failed
      have stopped : failFast.settle results = .error first :=
        settle_of_failure failed
      have collected :
          collectAll.settle results =
            .error (.collect (first :: later) results.length) :=
        settle_of_failure failed
      rw [stopped, collected]
      cases later with
      | nil =>
          have restOk : rest = (valuesOf rest).map .ok :=
            failuresOf_eq_nil_iff.mp restEq
          rw [restOk] at resultsEq
          exact .single resultsEq
      | cons second later =>
          exact .several resultsEq restEq

/-- The case decides both answers. -/
theorem Settled.settle_eq {results : List (Except Failure α)}
    {stopped collected : Except Failure (List α)}
    (settled : Settled results stopped collected) :
    failFast.settle results = stopped ∧
      collectAll.settle results = collected := by
  cases settled with
  | @values values allOk =>
      exact ⟨settle_eq_ok_iff.mpr allOk, settle_eq_ok_iff.mpr allOk⟩
  | @single before after failure parts =>
      have failed : failuresOf results = [failure] := by
        rw [failuresOf_of_first parts, failuresOf_map_ok]
      exact ⟨settle_of_failure failed, settle_of_failure failed⟩
  | @several before rest first second later parts restFailed =>
      have failed : failuresOf results = first :: second :: later := by
        rw [failuresOf_of_first parts, restFailed]
      exact ⟨settle_of_failure failed, settle_of_failure failed⟩

theorem mem_of_failuresOf {results : List (Except Failure α)}
    {failure : Failure} (member : failure ∈ failuresOf results) :
    .error failure ∈ results := by
  obtain ⟨result, resultMember, resultEq⟩ := List.mem_filterMap.mp member
  cases result with
  | error failure' =>
      obtain rfl : failure' = failure := Option.some.inj resultEq
      exact resultMember
  | ok value =>
      cases resultEq

/-- A collection of failures that a policy answers with is the failure of a task
or collects all failures, of which there are at least two. -/
theorem mem_or_collected {policy : FailurePolicy}
    {results : List (Except Failure α)} {failures : List Failure} {total : Nat}
    (answered : policy.settle results = .error (.aggregate failures total)) :
    .error (.aggregate failures total) ∈ results ∨
      (failures = failuresOf results ∧ 2 ≤ failures.length ∧
        total = results.length) := by
  cases failed : failuresOf results with
  | nil =>
      rw [settle_of_no_failure failed] at answered
      cases answered
  | cons first later =>
      have firstMember : .error first ∈ results :=
        mem_of_failuresOf (by rw [failed]; exact List.mem_cons_self)
      rw [settle_of_failure failed] at answered
      have answerEq := Except.error.inj answered
      cases policy with
      | failFast =>
          exact Or.inl (answerEq ▸ firstMember)
      | collectAll =>
          cases later with
          | nil =>
              exact Or.inl (answerEq ▸ firstMember)
          | cons second later =>
              have parts := Failure.aggregate.inj answerEq
              refine Or.inr ⟨parts.1.symm, ?_, parts.2.symm⟩
              rw [← parts.1]
              simp

/-- Settling loses no value and no failure.  If all tasks succeed, both policies
answer with the values.  A single failure is the answer of both.  Of several
failures the policy that stops answers with the first one, and the policy that goes
on with all of them in order, counted among all tasks.  Only such a collection is
ever made. -/
theorem settle_loses_nothing (results : List (Except Failure α)) :
    (∀ stopped collected,
      (failFast.settle results = stopped ∧
        collectAll.settle results = collected) ↔
      Settled results stopped collected) ∧
    ∀ (policy : FailurePolicy) failures total,
      policy.settle results = .error (.aggregate failures total) →
      .error (.aggregate failures total) ∈ results ∨
        (failures = failuresOf results ∧ 2 ≤ failures.length ∧
          total = results.length) := by
  refine ⟨fun stopped collected => ⟨?_, Settled.settle_eq⟩, ?_⟩
  · rintro ⟨rfl, rfl⟩
    exact settled_settle results
  · intro policy failures total answered
    exact mem_or_collected answered

/-- A task fails with a collection, and another fails after it.  The failures of
both are collected. -/
theorem settle_loses_nothing_nested :
    let nested : Failure := .aggregate [.settings "port"] 3
    let results : List (Except Failure Nat) :=
      [.ok 1, .error nested, .ok 2, .error (.settings "name")]
    failFast.settle results = .error nested ∧
    collectAll.settle results =
      .error (.aggregate [nested, .settings "name"] 4) ∧
    [nested, .settings "name"] = failuresOf results := by
  intro nested results
  have parts :
      results =
        [1].map .ok ++ .error nested :: [.ok 2, .error (.settings "name")] :=
    rfl
  have answers :=
    ((settle_loses_nothing results).1 (.error nested)
      (.error (.aggregate [nested, .settings "name"] 4))).mpr
      (.several parts rfl)
  have noTask :
      .error (.aggregate [nested, .settings "name"] 4) ∉ results := by
    simp [results, nested]
  have collected :=
    (settle_loses_nothing results).2 .collectAll _ _ answers.2
  exact ⟨answers.1, answers.2, (collected.resolve_left noTask).1⟩

end FailurePolicy
end Marginalia
