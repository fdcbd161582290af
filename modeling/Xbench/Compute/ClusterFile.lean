import Xbench.Events

/-!
# Cluster Files

The directory of cluster files: one file for each cluster, under its name. The
name is in the file as well, and the two agree because saving takes the one
from the other; that is a field of the directory.

Members are saved as dictionaries and built again from them, so their storage
comes back as the base class. The target is saved as a dictionary as well. A
file is therefore kept as it will be read.
What a program holds in hand and what the file shows differ by that, and
`Shows` allows for it: it is what a save leaves behind, and what a load starts
from.

## Main definitions

* `Cluster.asFile`: A cluster as its file shows it.
* `ClustersDir`: The cluster files.
* `ClustersDir.after`: The files after a trace of events.
* `dirOf`: The directory with just one cluster.
* `loadCluster`: Reading a cluster back.
* `Shows`: The file of a cluster shows it.
* `Recorded`: A cluster has an instance and its environment.

## Theorems

* `after_append`: The files after two traces.
* `after_unwritten`: Events that write no file leave the files alone.
* `shows_save`: A save is shown.
* `recorded_shows`: What is recorded in a cluster is recorded in its file.
-/

namespace Xbench

/-- A cluster as its file shows it. -/
def Cluster.asFile (c : Cluster) : Cluster :=
  { c with
    members := c.members.mapValues (fun n => ⟨n.vm.asBase⟩)
    bt := c.bt.asSaved }

/-- The cluster files, each under the name of its cluster. -/
structure ClustersDir where
  file : String → Option Cluster
  named : ∀ name c, file name = some c → c.clusterName = name

namespace ClustersDir

/-- `save_cluster`. -/
def save (dir : ClustersDir) (c : Cluster) : ClustersDir where
  file := fun name => if name = c.clusterName then some c.asFile else dir.file name
  named := by
    intro name c' h
    by_cases hname : name = c.clusterName
    · rw [if_pos hname] at h
      rw [← Option.some.inj h, hname]
      rfl
    · rw [if_neg hname] at h
      exact dir.named name c' h

/-- `remove_cluster_yaml`; a file that is not there is no error. -/
def remove (dir : ClustersDir) (clusterName : String) : ClustersDir where
  file := fun name => if name = clusterName then none else dir.file name
  named := by
    intro name c h
    by_cases hname : name = clusterName
    · rw [if_pos hname] at h
      exact nomatch h
    · rw [if_neg hname] at h
      exact dir.named name c h

def apply (dir : ClustersDir) : Event → ClustersDir
  | .saveCluster c => dir.save c
  | .removeClusterYaml clusterName => dir.remove clusterName
  | _ => dir

/-- The files after a trace of events. -/
def after (dir : ClustersDir) (trace : List Event) : ClustersDir :=
  trace.foldl apply dir

@[simp] theorem after_nil (dir : ClustersDir) : dir.after [] = dir := rfl

theorem after_append (dir : ClustersDir) (t t' : List Event) :
    dir.after (t ++ t') = (dir.after t).after t' :=
  List.foldl_append

end ClustersDir

theorem named_of_empty (name : String) (c : Cluster) (h : (none : Option Cluster) = some c) :
    c.clusterName = name := by
  cases h

/-- The directory with just one cluster. -/
def dirOf (c : Cluster) : ClustersDir :=
  ClustersDir.save ⟨fun _ => none, named_of_empty⟩ c

/-- Does the event write or remove a cluster file? -/
def Event.writesFile : Event → Bool
  | .saveCluster _ => true
  | .removeClusterYaml _ => true
  | _ => false

theorem after_unwritten (dir : ClustersDir) (trace : List Event)
    (h : ∀ e ∈ trace, e.writesFile = false) : dir.after trace = dir := by
  induction trace with
  | nil => rfl
  | cons e trace ih =>
      have he : dir.apply e = dir := by
        have hwrites := h e List.mem_cons_self
        cases e with
        | saveCluster c => exact nomatch hwrites
        | removeClusterYaml name => exact nomatch hwrites
        | _ => rfl
      change (dir.apply e).after trace = dir
      rw [he]
      exact ih (fun e' he' => h e' (List.mem_cons_of_mem e he'))

/-- `load_cluster`. Building the members opens their clients, which `opens`
    decides. -/
def loadCluster (opens : Cluster → Except Exn Unit) (dir : ClustersDir) (clusterName : String) :
    Except Exn Cluster :=
  match dir.file clusterName with
  | none => .error ⟨.xbench, "No such file or directory: '" ++ clusterName ++ ".yaml'"⟩
  | some c => (opens c).map (fun _ => c)

theorem loadCluster_file (opens : Cluster → Except Exn Unit) (dir : ClustersDir)
    (clusterName : String) (c : Cluster) (hfile : dir.file clusterName = some c) :
    loadCluster opens dir clusterName = (opens c).map (fun _ => c) := by
  unfold loadCluster
  rw [hfile]

theorem loadCluster_ok (opens : Cluster → Except Exn Unit) (dir : ClustersDir)
    (clusterName : String) (c : Cluster) (h : loadCluster opens dir clusterName = .ok c) :
    dir.file clusterName = some c := by
  unfold loadCluster at h
  cases hfile : dir.file clusterName with
  | none =>
      rw [hfile] at h
      exact nomatch h
  | some c' =>
      simp only [hfile] at h
      cases hopens : opens c' with
      | error e =>
          rw [hopens] at h
          exact nomatch h
      | ok u =>
          rw [hopens] at h
          rw [← Except.ok.inj h]

/-- The file of a cluster shows it: as it is, or as it was saved. -/
def Shows (dir : ClustersDir) (c : Cluster) : Prop :=
  dir.file c.clusterName = some c ∨ dir.file c.clusterName = some c.asFile

theorem shows_load (opens : Cluster → Except Exn Unit) (dir : ClustersDir)
    (clusterName : String) (c : Cluster) (h : loadCluster opens dir clusterName = .ok c) :
    Shows dir c ∧ c.clusterName = clusterName := by
  have hfile := loadCluster_ok opens dir clusterName c h
  have hname := dir.named clusterName c hfile
  refine ⟨Or.inl ?_, hname⟩
  rw [hname]
  exact hfile

theorem shows_save (dir : ClustersDir) (c : Cluster) : Shows (dir.save c) c :=
  Or.inr (if_pos rfl)

/-- A cluster has an instance among its members, and its environment. -/
def Recorded (c : Cluster) (y : String × Option String) : Prop :=
  (∃ env ∈ c.envs, env.name = y.1)
    ∧ ∃ name n, c.members.get? name = some n ∧ n.vm.env = y.1 ∧ n.vm.id = y.2

theorem recorded_asFile (c : Cluster) (y : String × Option String) :
    Recorded c.asFile y ↔ Recorded c y := by
  unfold Recorded
  refine and_congr_right (fun _ => exists_congr (fun name => ?_))
  have hget : c.asFile.members.get? name = (c.members.get? name).map (fun n => ⟨n.vm.asBase⟩) :=
    Dict.get?_mapValues _ c.members name
  rw [hget]
  constructor
  · rintro ⟨n, hn, hy⟩
    rcases Option.map_eq_some_iff.mp hn with ⟨m, hm, rfl⟩
    exact ⟨m, hm, hy⟩
  · rintro ⟨n, hn, hy⟩
    exact ⟨⟨n.vm.asBase⟩, by rw [hn, Option.map_some], hy⟩

/-- What is recorded in a cluster is recorded in its file, and nothing else
    is. -/
theorem recorded_shows (dir : ClustersDir) (c : Cluster) (y : String × Option String)
    (h : Shows dir c) :
    (∃ f, dir.file c.clusterName = some f ∧ Recorded f y) ↔ Recorded c y := by
  rcases h with h | h
  · rw [h]
    constructor
    · rintro ⟨f, hf, hy⟩
      rw [Option.some.inj hf]
      exact hy
    · exact fun hy => ⟨c, rfl, hy⟩
  · rw [h]
    constructor
    · rintro ⟨f, hf, hy⟩
      rw [← Option.some.inj hf] at hy
      exact (recorded_asFile c y).mp hy
    · exact fun hy => ⟨c.asFile, rfl, (recorded_asFile c y).mpr hy⟩

end Xbench
