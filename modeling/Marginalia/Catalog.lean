import Marginalia.Snapshot

/-!
# The catalog

Snapshots are grouped by artifact. Artifacts come in the order of their names,
and the snapshots of an artifact from the newest to the oldest; snapshots of
one date keep the order in which they were given.
-/

namespace Marginalia

/-- The snapshots of one artifact. -/
structure Group where
  name : Text
  snapshots : List Snapshot
  deriving DecidableEq

/-- A snapshot together with the other snapshots of its artifact. -/
structure PageJob where
  snapshot : Snapshot
  others : List Snapshot
  deriving DecidableEq

namespace Group

/-- A group of snapshots, the newest first. -/
def ofSnapshots (name : Text) (snapshots : List Snapshot) : Group :=
  ⟨name, snapshots.mergeSort fun first second =>
    second.date.notAfter first.date⟩

/-- All snapshots of a group but the one at an index. -/
def others (group : Group) (index : Nat) : List Snapshot :=
  group.snapshots.eraseIdx index

def jobs (group : Group) : List PageJob :=
  group.snapshots.mapIdx fun index snapshot => ⟨snapshot, group.others index⟩

end Group

/-- All artifacts with their snapshots. -/
structure Catalog where
  groups : List Group
  deriving DecidableEq

namespace Catalog

/-- The names of artifacts, each once, in increasing order. -/
def artifactNames (snapshots : List Snapshot) : List Text :=
  (snapshots.map Snapshot.artifact).eraseDups.mergeSort Text.isAtMost

/-- Group snapshots by artifact. -/
def ofSnapshots (snapshots : List Snapshot) : Catalog :=
  ⟨(artifactNames snapshots).map fun name =>
    .ofSnapshots name (snapshots.filter fun snapshot =>
      snapshot.artifact == name)⟩

def names (catalog : Catalog) : List Text :=
  catalog.groups.map Group.name

def group? (catalog : Catalog) (name : Text) : Option Group :=
  catalog.groups.find? fun group => group.name == name

def artifactCount (catalog : Catalog) : Nat :=
  catalog.groups.length

def snapshotCount (catalog : Catalog) : Nat :=
  catalog.groups.foldl (fun count group => count + group.snapshots.length) 0

def isEmpty (catalog : Catalog) : Bool :=
  catalog.groups.all fun group => group.snapshots.isEmpty

/-- One job for each snapshot, artifact by artifact. -/
def jobs (catalog : Catalog) : List PageJob :=
  catalog.groups.flatMap Group.jobs

end Catalog

end Marginalia
