import Marginalia.Proofs.Catalog.Ordering
import Marginalia.Proofs.Text.ByteOrder

/-!
# The catalog as a partition

A catalog has one group for each artifact, in the order of their names.  A group
arranges the snapshots of its artifact, the newest first, and loses none of them.
How the snapshots of different artifacts are mixed does not matter.
-/

namespace Marginalia

/-! ## Stable sorting -/

/-- Items that the sorting does not tell apart come out as they were given. -/
theorem filter_mergeSort_of_alike {α : Type} {le : α → α → Bool}
    (trans : ∀ first second third, le first second = true →
      le second third = true → le first third = true)
    (total : ∀ first second, (le first second || le second first) = true)
    {test : α → Bool}
    (alike : ∀ first second, test first = true → test second = true →
      le first second = true) (items : List α) :
    (items.mergeSort le).filter test = items.filter test := by
  have inOrder :
      (items.filter test).Pairwise fun first second => le first second = true := by
    refine List.pairwise_of_forall_mem_list fun first member second next => ?_
    exact alike first second (List.mem_filter.mp member).2 (List.mem_filter.mp next).2
  have kept : (items.filter test).Sublist (items.mergeSort le) :=
    List.sublist_mergeSort trans total inOrder List.filter_sublist
  have keptOnly :
      (items.filter test).Sublist ((items.mergeSort le).filter test) := by
    have filtered := kept.filter test
    rwa [List.filter_filter, funext fun item => Bool.and_self (test item)] at filtered
  have sameLength :
      ((items.mergeSort le).filter test).length = (items.filter test).length :=
    ((List.mergeSort_perm items le).filter test).length_eq
  exact (keptOnly.eq_of_length sameLength.symm).symm

/-! ## Groups -/

theorem CalendarDate.Before.asymm {first second : CalendarDate}
    (before : first.Before second) : ¬ second.Before first := by
  simp only [CalendarDate.Before] at before ⊢
  omega

namespace Group

/-- A group has some snapshots, each as often as it is given, from the newest to the
oldest, and those of one date in the order in which they are given. -/
structure Arranges (group : Group) (given : List Snapshot) : Prop where
  perm : group.snapshots.Perm given
  newestFirst : group.snapshots.Pairwise fun first second =>
    ¬ first.date.Before second.date
  stable : ∀ date : CalendarDate,
    (group.snapshots.filter fun snapshot => snapshot.date = date) =
      given.filter fun snapshot => snapshot.date = date

theorem ofSnapshots_arranges (name : Text) (given : List Snapshot) :
    (ofSnapshots name given).Arranges given where
  perm := List.mergeSort_perm given _
  newestFirst := by
    have inAnyOrder : given.Pairwise fun _ _ => True :=
      List.pairwise_of_forall fun _ _ => trivial
    refine (pairwise_ofSnapshots inAnyOrder name).imp fun {first second} order => ?_
    rcases order with before | ⟨same, _⟩
    · exact before.asymm
    · rw [same]
      exact fun before => before.asymm before
  stable date := by
    refine filter_mergeSort_of_alike
      (fun first second third newer older =>
        CalendarDate.notAfter_trans third.date second.date first.date older newer)
      (fun first second => CalendarDate.notAfter_total second.date first.date)
      (fun first second ofDate alsoOfDate => ?_) given
    rw [decide_eq_true_iff] at ofDate alsoOfDate
    rw [CalendarDate.notAfter_iff, ofDate, alsoOfDate]
    exact Or.inr rfl

end Group

/-! ## Catalogs -/

/-- The snapshots of an artifact, in the order in which they are given. -/
def Snapshot.ofArtifact (snapshots : List Snapshot) (name : Text) : List Snapshot :=
  snapshots.filter fun snapshot => snapshot.artifact == name

namespace Catalog

open Snapshot (ofArtifact)

variable {snapshots others : List Snapshot} {name : Text} {group : Group}

@[simp]
theorem names_ofSnapshots (snapshots : List Snapshot) :
    (ofSnapshots snapshots).names = artifactNames snapshots := by
  rw [names, ofSnapshots, List.map_map]
  exact List.map_id _

theorem pairwise_names (snapshots : List Snapshot) :
    (ofSnapshots snapshots).names.Pairwise
      fun first second => first.bytes < second.bytes := by
  rw [names_ofSnapshots]
  exact (Text.pairwise_lt_mergeSort (nodup_eraseDups _)).imp Text.bytes_lt_of_lt

theorem ofArtifact_ne_nil_iff :
    ofArtifact snapshots name ≠ [] ↔
      ∃ snapshot ∈ snapshots, snapshot.artifact = name := by
  rw [ofArtifact, ne_eq, List.filter_eq_nil_iff]
  simp

/-- The name of a group decides what is in it. -/
theorem mem_groups_iff :
    group ∈ (ofSnapshots snapshots).groups ↔
      group.name ∈ (ofSnapshots snapshots).names ∧
        group = .ofSnapshots group.name (ofArtifact snapshots group.name) := by
  rw [names_ofSnapshots, ofSnapshots, List.mem_map]
  constructor
  · rintro ⟨name, member, rfl⟩
    exact ⟨member, rfl⟩
  · rintro ⟨member, groupEq⟩
    exact ⟨group.name, member, groupEq.symm⟩

/-- A group is found by its name. -/
theorem group?_eq_some_iff :
    (ofSnapshots snapshots).group? name = some group ↔
      group ∈ (ofSnapshots snapshots).groups ∧ group.name = name := by
  constructor
  · intro found
    have named := List.find?_some found
    exact ⟨List.mem_of_find?_eq_some found, beq_iff_eq.mp named⟩
  · rintro ⟨member, rfl⟩
    rcases found : (ofSnapshots snapshots).group? group.name with _ | other
    · have absent := List.find?_eq_none.mp found group member
      simp at absent
    · have named := List.find?_some found
      have otherEq := (mem_groups_iff.mp (List.mem_of_find?_eq_some found)).2
      rw [beq_iff_eq.mp named, ← (mem_groups_iff.mp member).2] at otherEq
      rw [otherEq]

theorem arranges_of_mem_groups (member : group ∈ (ofSnapshots snapshots).groups) :
    group.Arranges (ofArtifact snapshots group.name) := by
  have arranged :=
    Group.ofSnapshots_arranges group.name (ofArtifact snapshots group.name)
  rwa [← (mem_groups_iff.mp member).2] at arranged

theorem snapshots_ne_nil_of_mem_groups
    (member : group ∈ (ofSnapshots snapshots).groups) : group.snapshots ≠ [] := by
  have named := (mem_groups_iff.mp member).1
  rw [names_ofSnapshots, mem_artifactNames_iff] at named
  intro empty
  have arranged := (arranges_of_mem_groups member).perm
  rw [empty] at arranged
  exact ofArtifact_ne_nil_iff.mpr named arranged.nil_eq.symm

/-! ## Counting -/

@[simp]
theorem map_snapshot_jobs (catalog : Catalog) :
    catalog.jobs.map PageJob.snapshot = catalog.groups.flatMap Group.snapshots := by
  rw [jobs, List.map_flatMap]
  exact List.flatMap_congr fun group _ => group.map_snapshot_jobs

theorem snapshotCount_eq (catalog : Catalog) :
    catalog.snapshotCount = (catalog.groups.flatMap Group.snapshots).length := by
  rw [snapshotCount, List.length_flatMap, List.sum_eq_foldl, List.foldl_map]

@[simp]
theorem snapshotCount_ofSnapshots (snapshots : List Snapshot) :
    (ofSnapshots snapshots).snapshotCount = snapshots.length := by
  rw [snapshotCount_eq, ← map_snapshot_jobs]
  exact (map_snapshot_jobs_perm snapshots).length_eq

/-! ## Mixing artifacts -/

theorem artifactNames_congr
    (same : ∀ name, ofArtifact others name = ofArtifact snapshots name) :
    artifactNames others = artifactNames snapshots := by
  refine Text.mergeSort_congr
    ((List.perm_ext_iff_of_nodup (nodup_eraseDups _) (nodup_eraseDups _)).mpr
      fun name => ?_)
  rw [List.mem_eraseDups, List.mem_eraseDups, List.mem_map, List.mem_map,
    ← ofArtifact_ne_nil_iff, ← ofArtifact_ne_nil_iff, same]

theorem ofSnapshots_congr
    (same : ∀ name, ofArtifact others name = ofArtifact snapshots name) :
    ofSnapshots others = ofSnapshots snapshots := by
  rw [ofSnapshots, ofSnapshots, artifactNames_congr same, Catalog.mk.injEq]
  exact List.map_congr_left fun name _ => congrArg (Group.ofSnapshots name) (same name)

/-- The groups of a catalog are a partition of the snapshots by artifact.  Their
names increase in the order of bytes, and each of them arranges the snapshots of its
name.  Only the order in which the snapshots of each artifact are given matters. -/
theorem ofSnapshots_partitions (snapshots : List Snapshot) :
    let catalog := ofSnapshots snapshots
    catalog.names.Pairwise (fun first second => first.bytes < second.bytes) ∧
    (∀ name, name ∈ catalog.names ↔
      ∃ snapshot ∈ snapshots, snapshot.artifact = name) ∧
    (∀ name group, catalog.group? name = some group ↔
      group ∈ catalog.groups ∧ group.name = name) ∧
    (∀ group ∈ catalog.groups,
      group.snapshots ≠ [] ∧ group.Arranges (ofArtifact snapshots group.name)) ∧
    catalog.artifactCount = (snapshots.map Snapshot.artifact).toFinset.card ∧
    catalog.snapshotCount = snapshots.length ∧
    ∀ others, (∀ name, ofArtifact others name = ofArtifact snapshots name) →
      ofSnapshots others = catalog := by
  refine ⟨pairwise_names snapshots, fun name => ?_,
    fun name group => group?_eq_some_iff, ?_, artifactCount_ofSnapshots snapshots,
    snapshotCount_ofSnapshots snapshots, fun others same => ofSnapshots_congr same⟩
  · rw [names_ofSnapshots, mem_artifactNames_iff]
  · intro group member
    exact ⟨snapshots_ne_nil_of_mem_groups member, arranges_of_mem_groups member⟩

/-- Two snapshots of one date, with one of another artifact between them. -/
theorem ofSnapshots_partitions_mixed :
    let snapshot (artifact : Text) (file : Path) : Snapshot :=
      ⟨artifact, "1", ⟨2020, 3, 3⟩, "Mar 3 2020", "x.py", "l", "Ada", file, 5⟩
    let first := snapshot ['b'] "in/b/x.py"
    let second := snapshot ['b'] "in/b/y.py"
    let other := snapshot ['a'] "in/a/z.py"
    (∀ name, ofArtifact [first, other, second] name =
      ofArtifact [other, first, second] name) ∧
    ofSnapshots [first, other, second] = ofSnapshots [other, first, second] := by
  intro snapshot first second other
  have same (name : Text) :
      ofArtifact [first, other, second] name =
        ofArtifact [other, first, second] name := by
    by_cases named : other.artifact = name
    · have different : (first.artifact == name) = false := by
        rw [← named]
        decide
      simp only [ofArtifact, List.filter_cons, different, Bool.false_eq_true, if_false]
    · have different : (other.artifact == name) = false := beq_eq_false_iff_ne.mpr named
      simp only [ofArtifact, List.filter_cons, different, Bool.false_eq_true, if_false]
  obtain ⟨_, _, _, _, _, _, ofOthers⟩ :=
    ofSnapshots_partitions [other, first, second]
  exact ⟨same, ofOthers [first, other, second] same⟩

end Catalog

end Marginalia
