import Marginalia.Catalog
import Mathlib.Data.Finset.Card
import Mathlib.Data.List.Permutation

/-!
# Groups of a catalog

The catalog of some snapshots has one group for each artifact name that occurs,
and the snapshots of a group are those of its name.
-/

namespace Marginalia

theorem nodup_eraseDups {α : Type} [BEq α] [LawfulBEq α] (items : List α) :
    items.eraseDups.Nodup := by
  match items with
  | [] =>
      simp
  | item :: items =>
      rw [List.eraseDups_cons, List.nodup_cons, List.mem_eraseDups]
      refine ⟨by simp, nodup_eraseDups _⟩
  termination_by items.length
  decreasing_by
    have shorter := List.length_filter_le (fun other => !other == item) items
    simp only [List.length_cons]
    omega

@[simp]
theorem Group.map_snapshot_jobs (group : Group) :
    group.jobs.map PageJob.snapshot = group.snapshots := by
  apply List.ext_getElem <;> simp [jobs]

theorem Group.snapshot_mem_of_mem_jobs {group : Group}
    {job : PageJob} (member : job ∈ group.jobs) :
    job.snapshot ∈ group.snapshots := by
  rw [← map_snapshot_jobs]
  exact List.mem_map.mpr ⟨job, member, rfl⟩

namespace Catalog

variable {snapshots : List Snapshot}

@[simp]
theorem mem_artifactNames_iff {name : Text} :
    name ∈ artifactNames snapshots ↔
      ∃ snapshot ∈ snapshots, snapshot.artifact = name := by
  rw [artifactNames, List.mem_mergeSort, List.mem_eraseDups, List.mem_map]

theorem nodup_artifactNames (snapshots : List Snapshot) :
    (artifactNames snapshots).Nodup :=
  (List.mergeSort_perm _ _).nodup_iff.mpr (nodup_eraseDups _)

/-- The number of artifacts is that of the different names. -/
theorem artifactCount_ofSnapshots (snapshots : List Snapshot) :
    (ofSnapshots snapshots).artifactCount =
      (snapshots.map Snapshot.artifact).toFinset.card := by
  have sameNames :
      (snapshots.map Snapshot.artifact).toFinset =
        (artifactNames snapshots).toFinset := by
    ext name
    simp
  rw [sameNames, List.toFinset_card_of_nodup (nodup_artifactNames snapshots),
    artifactCount, ofSnapshots, List.length_map]

theorem mem_group_iff {group : Group}
    (member : group ∈ (ofSnapshots snapshots).groups) {snapshot : Snapshot} :
    snapshot ∈ group.snapshots ↔
      snapshot ∈ snapshots ∧ snapshot.artifact = group.name := by
  obtain ⟨name, _, rfl⟩ := List.mem_map.mp member
  rw [Group.ofSnapshots, List.mem_mergeSort, List.mem_filter, beq_iff_eq]

/-- The artifact of every snapshot has a group. -/
theorem exists_group {snapshot : Snapshot} (member : snapshot ∈ snapshots) :
    ∃ group ∈ (ofSnapshots snapshots).groups, group.name = snapshot.artifact := by
  have named : snapshot.artifact ∈ artifactNames snapshots :=
    mem_artifactNames_iff.mpr ⟨snapshot, member, rfl⟩
  exact ⟨_, List.mem_map.mpr ⟨snapshot.artifact, named, rfl⟩, rfl⟩

/-- A job is about one of the snapshots, and its artifact has a group. -/
theorem snapshot_mem_of_mem_jobs {job : PageJob}
    (member : job ∈ (ofSnapshots snapshots).jobs) :
    job.snapshot ∈ snapshots ∧
      ∃ group ∈ (ofSnapshots snapshots).groups,
        group.name = job.snapshot.artifact := by
  obtain ⟨group, groupMember, jobMember⟩ := List.mem_flatMap.mp member
  obtain ⟨snapshotMember, sameName⟩ :=
    (mem_group_iff groupMember).mp (Group.snapshot_mem_of_mem_jobs jobMember)
  exact ⟨snapshotMember, group, groupMember, sameName.symm⟩

theorem mem_jobs_of_placed {catalog : Catalog} {group : Group}
    (member : group ∈ catalog.groups) {position : Nat} {snapshot : Snapshot}
    (placed : group.snapshots[position]? = some snapshot) :
    ⟨snapshot, group.snapshots.eraseIdx position⟩ ∈ catalog.jobs := by
  obtain ⟨bound, snapshotEq⟩ := List.getElem?_eq_some_iff.mp placed
  refine List.mem_flatMap.mpr ⟨group, member, List.mem_mapIdx.mpr ⟨position, bound, ?_⟩⟩
  rw [snapshotEq, Group.others]

/-- Splitting snapshots by name loses none, as long as all names are there. -/
theorem flatMap_filter_artifact_perm {names : List Text} (distinct : names.Nodup)
    (named : ∀ snapshot ∈ snapshots, snapshot.artifact ∈ names) :
    (names.flatMap fun name => snapshots.filter fun snapshot =>
      snapshot.artifact == name).Perm snapshots := by
  -- The snapshots of the first name are taken out for the other names.
  induction names generalizing snapshots with
  | nil =>
      rw [List.eq_nil_iff_forall_not_mem.mpr fun snapshot member =>
        List.not_mem_nil (named snapshot member)]
      exact .nil
  | cons first names inductionHypothesis =>
      obtain ⟨firstNew, restDistinct⟩ := List.nodup_cons.mp distinct
      let others := snapshots.filter fun snapshot => !snapshot.artifact == first
      have othersNamed :
          ∀ snapshot ∈ others, snapshot.artifact ∈ names := by
        intro snapshot member
        obtain ⟨given, different⟩ := List.mem_filter.mp member
        rcases List.mem_cons.mp (named snapshot given) with same | later
        · simp [same] at different
        · exact later
      have restEq :
          (names.flatMap fun name => snapshots.filter fun snapshot =>
              snapshot.artifact == name) =
            names.flatMap fun name => others.filter fun snapshot =>
              snapshot.artifact == name := by
        refine List.flatMap_congr fun name member => ?_
        rw [List.filter_filter]
        refine List.filter_congr fun snapshot _ => ?_
        have different : name ≠ first := fun same => firstNew (same ▸ member)
        by_cases same : snapshot.artifact = name <;> simp [same, different]
      rw [List.flatMap_cons, restEq]
      exact ((inductionHypothesis restDistinct othersNamed).append_left _).trans
        (List.filter_append_perm _ snapshots)

/-- There is one job for each snapshot. -/
theorem map_snapshot_jobs_perm (snapshots : List Snapshot) :
    ((ofSnapshots snapshots).jobs.map PageJob.snapshot).Perm snapshots := by
  rw [jobs, List.map_flatMap, ofSnapshots, List.flatMap_map]
  simp only [Group.map_snapshot_jobs, Group.ofSnapshots]
  have sorted :
      ((artifactNames snapshots).flatMap fun name =>
          (snapshots.filter fun snapshot =>
            snapshot.artifact == name).mergeSort fun first second =>
              second.date.notAfter first.date).Perm
        ((artifactNames snapshots).flatMap fun name =>
          snapshots.filter fun snapshot => snapshot.artifact == name) :=
    List.Perm.flatMap_left _ fun _ _ => List.mergeSort_perm _ _
  exact sorted.trans (flatMap_filter_artifact_perm
    (nodup_artifactNames snapshots) fun snapshot member =>
      mem_artifactNames_iff.mpr ⟨snapshot, member, rfl⟩)

end Catalog

end Marginalia
