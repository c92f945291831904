import Marginalia.Proofs.Catalog.Partition

/-!
# Jobs and links between revisions

There is one job for each snapshot, in the order of the catalog.  The page of a
snapshot links to all other positions of its group and to nothing else, also where
two snapshots are equal.
-/

namespace Marginalia

namespace Group

variable {group : Group} {position source target : Nat} {job : PageJob}

theorem getElem?_jobs_eq_some_iff :
    group.jobs[position]? = some job ↔
      group.snapshots[position]? = some job.snapshot ∧
        job.others = group.snapshots.eraseIdx position := by
  rw [jobs, List.getElem?_mapIdx, Option.map_eq_some_iff]
  constructor
  · rintro ⟨snapshot, placed, rfl⟩
    exact ⟨placed, rfl⟩
  · rintro ⟨placed, othersEq⟩
    refine ⟨job.snapshot, placed, ?_⟩
    rw [others, ← othersEq]

theorem length_others_of_placed (placed : group.jobs[position]? = some job) :
    job.others.length + 1 = group.snapshots.length := by
  obtain ⟨snapshotPlaced, othersEq⟩ := getElem?_jobs_eq_some_iff.mp placed
  obtain ⟨bound, _⟩ := List.getElem?_eq_some_iff.mp snapshotPlaced
  rw [othersEq, List.length_eraseIdx_of_lt bound]
  omega

theorem insertIdx_others_of_placed (placed : group.jobs[position]? = some job) :
    job.others.insertIdx position job.snapshot = group.snapshots := by
  obtain ⟨snapshotPlaced, othersEq⟩ := getElem?_jobs_eq_some_iff.mp placed
  obtain ⟨bound, snapshotEq⟩ := List.getElem?_eq_some_iff.mp snapshotPlaced
  rw [othersEq, ← snapshotEq, List.insertIdx_eraseIdx_getElem bound]

/-! ## Links -/

/-- The snapshots that a page at a position links to, with a gap at its own
position. -/
def linked (position : Nat) (others : List Snapshot) : List (Option Snapshot) :=
  (others.map some).insertIdx position none

/-- The page at one position links to the snapshot at another position. -/
def Links (group : Group) (source target : Nat) : Prop :=
  ∃ job snapshot,
    group.jobs[source]? = some job ∧
    group.snapshots[target]? = some snapshot ∧
    (linked source job.others)[target]? = some (some snapshot)

theorem linked_eraseIdx {snapshots : List Snapshot}
    (bound : position < snapshots.length) :
    linked position (snapshots.eraseIdx position) =
      (snapshots.map some).set position none := by
  have inMap : position ≠ (snapshots.map some).length := by
    rw [List.length_map]
    omega
  rw [linked, ← List.eraseIdx_map, List.insertIdx_eraseIdx_self inMap]

/-- A page links to all positions of its group but its own. -/
theorem links_iff :
    group.Links source target ↔
      source < group.snapshots.length ∧ target < group.snapshots.length ∧
        source ≠ target := by
  constructor
  · rintro ⟨job, snapshot, placed, targetPlaced, linkedThere⟩
    obtain ⟨sourcePlaced, othersEq⟩ := getElem?_jobs_eq_some_iff.mp placed
    obtain ⟨sourceBound, _⟩ := List.getElem?_eq_some_iff.mp sourcePlaced
    obtain ⟨targetBound, _⟩ := List.getElem?_eq_some_iff.mp targetPlaced
    refine ⟨sourceBound, targetBound, ?_⟩
    rintro rfl
    -- At the position of the page itself there is the gap.
    rw [othersEq, linked_eraseIdx sourceBound,
      List.getElem?_set_self (by rwa [List.length_map])] at linkedThere
    cases linkedThere
  · rintro ⟨sourceBound, targetBound, different⟩
    have targetPlaced := List.getElem?_eq_getElem targetBound
    refine ⟨⟨group.snapshots[source], group.snapshots.eraseIdx source⟩, _,
      getElem?_jobs_eq_some_iff.mpr ⟨List.getElem?_eq_getElem sourceBound, rfl⟩,
      targetPlaced, ?_⟩
    rw [linked_eraseIdx sourceBound, List.getElem?_set_ne different,
      List.getElem?_map, targetPlaced]
    rfl

theorem links_comm : group.Links source target ↔ group.Links target source := by
  rw [links_iff, links_iff]
  constructor
  · rintro ⟨sourceBound, targetBound, different⟩
    exact ⟨targetBound, sourceBound, different.symm⟩
  · rintro ⟨targetBound, sourceBound, different⟩
    exact ⟨sourceBound, targetBound, different.symm⟩

end Group

namespace Catalog

variable {snapshots : List Snapshot} {group : Group} {job : PageJob}

theorem artifact_of_mem_jobs (member : group ∈ (ofSnapshots snapshots).groups)
    (listed : job ∈ group.jobs) : job.snapshot.artifact = group.name :=
  ((mem_group_iff member).mp (Group.snapshot_mem_of_mem_jobs listed)).2

theorem artifact_of_mem_others (member : group ∈ (ofSnapshots snapshots).groups)
    (listed : job ∈ group.jobs) {other : Snapshot} (linked : other ∈ job.others) :
    other.artifact = group.name := by
  obtain ⟨position, placed⟩ := List.mem_iff_getElem?.mp listed
  obtain ⟨_, othersEq⟩ := Group.getElem?_jobs_eq_some_iff.mp placed
  rw [othersEq] at linked
  exact ((mem_group_iff member).mp (List.mem_of_mem_eraseIdx linked)).2

/-- The jobs come artifact by artifact. -/
theorem pairwise_jobs (snapshots : List Snapshot) :
    (ofSnapshots snapshots).jobs.Pairwise fun first second =>
      first.snapshot.artifact.bytes < second.snapshot.artifact.bytes ∨
        first.snapshot.artifact = second.snapshot.artifact := by
  refine List.pairwise_flatMap.mpr ⟨fun group member => ?_, ?_⟩
  · refine List.pairwise_of_forall_mem_list fun first listed second alsoListed => ?_
    right
    rw [artifact_of_mem_jobs member listed, artifact_of_mem_jobs member alsoListed]
  · have inOrder := pairwise_names snapshots
    rw [names, List.pairwise_map] at inOrder
    refine inOrder.imp_of_mem
      fun {group next} member nextMember before first listed second alsoListed => ?_
    left
    rw [artifact_of_mem_jobs member listed, artifact_of_mem_jobs nextMember alsoListed]
    exact before

/-- The jobs of an artifact are those of its group. -/
theorem filter_jobs (member : group ∈ (ofSnapshots snapshots).groups) :
    ((ofSnapshots snapshots).jobs.filter fun job =>
      job.snapshot.artifact = group.name) = group.jobs := by
  obtain ⟨front, back, groupsEq⟩ := List.append_of_mem member
  have distinct := nodup_artifactNames snapshots
  rw [← names_ofSnapshots, names, groupsEq, List.map_append, List.map_cons,
    List.nodup_middle, List.nodup_cons, ← List.map_append] at distinct
  have noneElsewhere : ∀ other ∈ front ++ back,
      (other.jobs.filter fun job => job.snapshot.artifact = group.name) = [] := by
    intro other otherMember
    have otherListed : other ∈ (ofSnapshots snapshots).groups := by
      rw [groupsEq, List.perm_middle.mem_iff]
      exact List.mem_cons_of_mem group otherMember
    rw [List.filter_eq_nil_iff]
    intro job listed
    rw [decide_eq_true_iff, artifact_of_mem_jobs otherListed listed]
    exact fun same => distinct.1 (List.mem_map.mpr ⟨other, otherMember, same⟩)
  have allHere : ∀ job ∈ group.jobs,
      decide (job.snapshot.artifact = group.name) = true := by
    intro job listed
    rw [decide_eq_true_iff]
    exact artifact_of_mem_jobs member listed
  obtain ⟨noneBefore, noneAfter⟩ := List.forall_mem_append.mp noneElsewhere
  rw [jobs, groupsEq, List.filter_flatMap, List.flatMap_append, List.flatMap_cons,
    List.flatMap_eq_nil_iff.mpr noneBefore, List.flatMap_eq_nil_iff.mpr noneAfter,
    List.filter_eq_self.mpr allHere, List.nil_append, List.append_nil]

/-- Every snapshot has one job, and the jobs come in the order of the catalog.  A job
has all other snapshots of the group, in their order, so that pages of one artifact
link to each other and pages of different artifacts do not. -/
theorem jobs_link_groups (snapshots : List Snapshot) :
    let catalog := ofSnapshots snapshots
    (catalog.jobs.map PageJob.snapshot).Perm snapshots ∧
    catalog.jobs.Pairwise (fun first second =>
      first.snapshot.artifact.bytes < second.snapshot.artifact.bytes ∨
        first.snapshot.artifact = second.snapshot.artifact) ∧
    (∀ group ∈ catalog.groups,
      (catalog.jobs.filter fun job => job.snapshot.artifact = group.name) =
        group.jobs ∧
      group.jobs.map PageJob.snapshot = group.snapshots ∧
      (∀ (position : Nat) (job : PageJob), group.jobs[position]? = some job →
        job.others.length + 1 = group.snapshots.length ∧
        job.others.insertIdx position job.snapshot = group.snapshots) ∧
      ∀ source target,
        (group.Links source target ↔
          source < group.snapshots.length ∧ target < group.snapshots.length ∧
            source ≠ target) ∧
        (group.Links source target ↔ group.Links target source)) ∧
    ∀ job ∈ catalog.jobs, ∀ other ∈ job.others,
      other.artifact = job.snapshot.artifact := by
  refine ⟨map_snapshot_jobs_perm snapshots, pairwise_jobs snapshots, ?_, ?_⟩
  · intro group member
    refine ⟨filter_jobs member, group.map_snapshot_jobs, fun position job placed => ?_,
      fun source target => ⟨Group.links_iff, Group.links_comm⟩⟩
    exact ⟨Group.length_others_of_placed placed,
      Group.insertIdx_others_of_placed placed⟩
  · intro job listed other linked
    obtain ⟨group, member, inGroup⟩ := List.mem_flatMap.mp listed
    rw [artifact_of_mem_others member inGroup linked, artifact_of_mem_jobs member inGroup]

/-- A snapshot that is given twice: the two pages link to each other. -/
theorem jobs_link_groups_equal :
    let snapshot : Snapshot :=
      ⟨['a'], "1", ⟨2020, 3, 3⟩, "Mar 3 2020", "x.py", "l", "Ada", "in/a/x.py", 5⟩
    let group : Group := ⟨['a'], [snapshot, snapshot]⟩
    group ∈ (ofSnapshots [snapshot, snapshot]).groups ∧
    group.Links 0 1 ∧ group.Links 1 0 ∧ ¬ group.Links 0 0 := by
  intro snapshot group
  have member : group ∈ (ofSnapshots [snapshot, snapshot]).groups := by
    refine mem_groups_iff.mpr ⟨?_, ?_⟩
    · rw [names_ofSnapshots, mem_artifactNames_iff]
      exact ⟨snapshot, List.mem_cons_self, rfl⟩
    · rw [Group.ofSnapshots, List.mergeSort_of_pairwise (by decide)]
      rfl
  obtain ⟨_, _, groups, _⟩ := jobs_link_groups [snapshot, snapshot]
  obtain ⟨_, _, _, links⟩ := groups group member
  refine ⟨member, (links 0 1).1.mpr (by decide), (links 1 0).1.mpr (by decide), ?_⟩
  rw [(links 0 0).1]
  decide

end Catalog

end Marginalia
