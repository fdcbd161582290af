import Xbench.Lib.Triple
import Xbench.Commands.Deprovisioning

/-!
# Confinement

When a forced teardown keeps to its own cluster.

`nuke` terminates what the interface finds, and nothing else; `nuke_spec` says
so of every run, whichever request fails. So it keeps to its cluster when the
interface does, which is when no tag of another cluster overlaps with its
name.

## Main definitions

* `NukeEvent`: What `nuke` does.
* `Spares`: An event leaves the resources of other clusters alone.
* `DeProvisioning.forCluster`: The teardown of a cluster.
* `Confined`: The interface and `nuke` keep to a cluster.

## Theorems

* `nuke_spec`: What `nuke` does in AWS.
* `spares_of_nukeEvent`: What is found is spared when it is found rightly.
* `confined_iff`: When they keep to a cluster.
-/

namespace Xbench

open Effect

/-- What `nuke` does in an account: terminate machines that were found, delete
    volumes that were found, and clear the records. -/
def NukeEvent (account : Ec2Account) (clusterName : String) : Event → Prop
  | .terminateById id => ∃ i ∈ account.describeInstancesByTag clusterName, id = some i.id
  | .deleteVolumeById id => ∃ v ∈ account.describeVolumesByTag clusterName, id = some v.id
  | .deregisterCluster _ _ name => name = clusterName
  | .removeClusterYaml name => name = clusterName
  | _ => False

section Nuke

variable (self : DeProvisioning)

theorem deregisterCluster_spec (ms : MetricsServer) (account : Ec2Account) (clusterName : String) :
    Triple (NukeEvent account clusterName) (fun _ => True)
      (ms.deregisterCluster self.metrics clusterName) := by
  unfold MetricsServer.deregisterCluster
  cases ms.sshClient with
  | none => exact triple_pure _ _ _ trivial
  | some host =>
      dsimp only
      split
      · exact triple_tell_bind _ _ _ _ rfl (triple_ofExcept _ _ _ (fun _ _ => trivial))
      · exact triple_ofExcept _ _ _ (fun _ _ => trivial)

theorem requestEach_spec (E : Event → Prop) (event : Option String → Event)
    (outcome : Option String → Except Exn Unit) (ids : List (Option String))
    (h : ∀ id ∈ ids, E (event id)) :
    Triple E (fun _ => True) (TagApi.requestEach event outcome ids) := by
  induction ids with
  | nil => exact triple_pure _ _ _ trivial
  | cons id ids ih =>
      have htail := ih (fun id' hid' => h id' (List.mem_cons_of_mem id hid'))
      refine triple_tell_bind _ _ _ _ (h id List.mem_cons_self) ?_
      exact triple_step _ _ _ _ (fun _ _ => htail)

/-- What was found is terminated, and nothing else. -/
theorem nukeFound_spec (account : Ec2Account) (instances volumes : List (Option String))
    (hinstances : ∀ id ∈ instances, NukeEvent account self.clusterName (.terminateById id))
    (hvolumes : ∀ id ∈ volumes, NukeEvent account self.clusterName (.deleteVolumeById id)) :
    Triple (NukeEvent account self.clusterName) (fun _ => True)
      (self.nukeFound .aws (some instances) (some volumes)) := by
  have hremove : Triple (NukeEvent account self.clusterName) (fun _ => True)
      (tell (.removeClusterYaml self.clusterName) : Command Unit) := triple_tell _ _ rfl
  -- deleting the volumes is the end of every branch
  have hdelete : Triple (NukeEvent account self.clusterName) (fun _ => True)
      (do
        let volumes ← ofExcept ((some volumes).elim (.error noLength) .ok)
        if !volumes.isEmpty then self.tags.deleteVolumes volumes .aws
        tell (.removeClusterYaml self.clusterName)) := by
    refine triple_step _ _ _ _ (fun found hfound => ?_)
    rw [← Except.ok.inj hfound]
    split
    · exact triple_bind _ _ _ _ _ (requestEach_spec _ _ _ _ hvolumes) (fun _ _ => hremove)
    · exact hremove
  unfold DeProvisioning.nukeFound
  refine triple_step _ _ _ _ (fun found hfound => ?_)
  rw [← Except.ok.inj hfound]
  split
  · refine triple_bind _ _ _ _ _ (requestEach_spec _ _ _ _ hinstances) (fun _ _ => ?_)
    exact triple_step _ _ _ _ (fun _ _ => hdelete)
  · exact hdelete

/-- What `nuke` does in AWS. -/
theorem nuke_spec (cloudRegion : String) :
    Triple (NukeEvent self.tags.account self.clusterName) (fun _ => True)
      (self.nuke "aws" cloudRegion) := by
  unfold DeProvisioning.nuke
  refine triple_step _ _ _ _ (fun config _ => ?_)
  refine triple_step _ _ _ _ (fun regionConfig _ => ?_)
  refine triple_step _ _ _ _ (fun ms _ => ?_)
  refine triple_bind _ _ _ _ _ (deregisterCluster_spec self ms _ _) (fun _ _ => ?_)
  refine triple_step _ _ _ _ (fun cli hcli => ?_)
  have haws : some Cli.aws = cli := Except.ok.inj hcli
  subst haws
  refine triple_step _ _ _ _ (fun _ _ => ?_)
  refine triple_step _ _ _ _ (fun allInstances hinstances => ?_)
  refine triple_step _ _ _ _ (fun allVolumes hvolumes => ?_)
  split
  · exact triple_pure _ _ _ trivial
  · -- the interface answered, so these are the identifiers of what it found
    rcases except_bind_eq_ok _ _ _ hinstances with ⟨_, _, hfound⟩
    rw [← Except.ok.inj hfound]
    rcases except_bind_eq_ok _ _ _ hvolumes with ⟨_, _, hfound⟩
    rw [← Except.ok.inj hfound]
    refine nukeFound_spec self _ _ _ (fun id hid => ?_) (fun id hid => ?_)
    · rcases List.mem_map.mp hid with ⟨i, hi, rfl⟩
      exact ⟨i, hi, rfl⟩
    · rcases List.mem_map.mp hid with ⟨v, hv, rfl⟩
      exact ⟨v, hv, rfl⟩

end Nuke

/-- An event terminates no machine and deletes no volume of another cluster. -/
def Spares (account : Ec2Account) (c : ClusterName) : Event → Prop
  | .terminateById id => ∀ i ∈ account.instances, id = some i.id → i.owner = c
  | .deleteVolumeById id => ∀ v ∈ account.volumes, id = some v.id → v.owner = c
  | .destroyInstance _ => False
  | .destroyVolume _ _ => False
  | _ => True

/-- What is found is spared when it is found rightly. -/
theorem spares_of_nukeEvent (account : Ec2Account) (c : ClusterName)
    (hinstances : account.describeInstancesByTag c.text = account.instancesOf c)
    (hvolumes : account.describeVolumesByTag c.text = account.volumesOf c) (e : Event)
    (h : NukeEvent account c.text e) : Spares account c e := by
  cases e with
  | terminateById id =>
      rcases h with ⟨i, hi, rfl⟩
      rw [hinstances] at hi
      rcases List.mem_filter.mp hi with ⟨hmem, hown⟩
      intro j hj hid
      have hij : i = j := List.inj_on_of_nodup_map account.instanceIds hmem hj (Option.some.inj hid)
      rw [← hij]
      exact of_decide_eq_true (Bool.and_eq_true_iff.mp hown).1
  | deleteVolumeById id =>
      rcases h with ⟨v, hv, rfl⟩
      rw [hvolumes] at hv
      rcases List.mem_filter.mp hv with ⟨hmem, hown⟩
      intro w hw hid
      have hvw : v = w := List.inj_on_of_nodup_map account.volumeIds hmem hw (Option.some.inj hid)
      rw [← hvw]
      exact of_decide_eq_true hown
  | deregisterCluster server dir name => trivial
  | removeClusterYaml name => trivial
  | _ => exact h.elim

/-- The teardown of a cluster. -/
def DeProvisioning.forCluster (self : DeProvisioning) (c : ClusterName) : DeProvisioning :=
  { self with clusterName := c.text }

/-- The interface finds what belongs to the cluster, `nuke` takes nothing of
    another cluster, and the cluster is running only with machines of its
    own. -/
structure Confined (inst : DeProvisioning) (c : ClusterName) : Prop where
  instances : inst.tags.account.describeInstancesByTag c.text = inst.tags.account.instancesOf c
  volumes : inst.tags.account.describeVolumesByTag c.text = inst.tags.account.volumesOf c
  nuked : ∀ cloudRegion, ∀ e ∈ ((inst.forCluster c).nuke "aws" cloudRegion).trace,
    Spares inst.tags.account c e
  running : inst.tags.account.isRunning c.text = true → inst.tags.account.instancesOf c ≠ []

/-- When the interface and `nuke` keep to a cluster. -/
theorem confined_iff (self : DeProvisioning) (c : ClusterName) :
    Confined self c ↔ self.tags.account.Unambiguous c := by
  constructor
  · intro h
    exact ⟨(Ec2Account.describeInstancesByTag_iff _ c).mp h.instances,
      (Ec2Account.describeVolumesByTag_iff _ c).mp h.volumes⟩
  · intro h
    have hinstances := (Ec2Account.describeInstancesByTag_iff _ c).mpr h.instances
    have hvolumes := (Ec2Account.describeVolumesByTag_iff _ c).mpr h.volumes
    refine ⟨hinstances, hvolumes, fun cloudRegion e he => ?_, fun hrunning hnone => ?_⟩
    · have hevent := (nuke_spec (self.forCluster c) cloudRegion).trace e he
      exact spares_of_nukeEvent _ c hinstances hvolumes e hevent
    · rw [Ec2Account.isRunning, hinstances, hnone] at hrunning
      exact absurd (of_decide_eq_true hrunning) (Nat.lt_irrefl 0)

section Neighbours

/-- A running machine of the cluster dev2. -/
def dev2Driver : Ec2Instance :=
  ⟨⟨Colo.dev2, "driver-0", "i-1"⟩, .running⟩

/-- Teardowns in an account that has only that machine. -/
def devTeardown : DeProvisioning where
  toInstallation := devInstallation
  dryRun := false
  metrics := ⟨fun _ => .ok (), fun _ _ => ⟨true, .ok (), fun _ => rfl⟩⟩
  tags :=
    { construct := fun _ => .ok ()
      account := ⟨[dev2Driver], [], List.nodup_singleton _, List.nodup_nil⟩
      answered := .ok ()
      gcpInstances := .ok []
      gcpVolumes := .ok []
      auroraClusters := .ok []
      terminate := fun _ => .ok ()
      waitTerminated := fun _ => .ok ()
      delete := fun _ => .ok () }
  archive := .ok ()

/-- Tearing down dev terminates the machine of dev2. -/
theorem dev_nukes_dev2 :
    ((devTeardown.forCluster Colo.dev).nuke "aws" "us-west-2").trace
        = [.terminateById (some "i-1"), .removeClusterYaml "dev"]
      ∧ devTeardown.tags.account.isRunning "dev" = true
      ∧ ¬ Confined devTeardown Colo.dev := by
  have htrace : ((devTeardown.forCluster Colo.dev).nuke "aws" "us-west-2").trace
      = [.terminateById (some "i-1"), .removeClusterYaml "dev"] := rfl
  refine ⟨htrace, rfl, fun h => ?_⟩
  have hspared := h.nuked "us-west-2" (.terminateById (some "i-1"))
    (by rw [htrace]; exact List.mem_cons_self)
  have hown : Colo.dev2 = Colo.dev := hspared dev2Driver List.mem_cons_self rfl
  exact absurd (congrArg ClusterName.text hown) (by decide)

end Neighbours

end Xbench
