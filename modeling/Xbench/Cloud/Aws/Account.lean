import Xbench.Common

/-!
# Resources by Tag

What is in an AWS account, and how the command line interface finds what
belongs to a cluster: by a `Name` tag that is made of the name of the cluster,
a hyphen and the name of the machine or the volume.

The filter asks for tags that start with the name of the cluster. It does not
ask for the hyphen, so it finds the resources of a cluster whose name is
longer; and since names hold hyphens of their own, it finds those of a cluster
whose name is shorter when the rest is the beginning of a machine's name.
`startsWith_tag_iff` is that there are no other ways.

An account is what the credentials and the region of an interface let it see.
EC2 and EBS never use an identifier twice, which is a field of the account.

## Main definitions

* `Resource`: A machine or a volume with the tag of its cluster.
* `Resource.tag`: Its `Name` tag.
* `Ec2Instance`: A machine and its state.
* `Ec2Account`: Machines and volumes.
* `describeInstancesByTag`: The live machines found for a cluster.
* `describeVolumesByTag`: The volumes found for a cluster.
* `Overlaps`: A tag of one cluster reads as one of another.
* `Ec2Account.Unambiguous`: No tag of the account reads as one of a cluster.

## Theorems

* `startsWith_tag_iff`: Whose tags start with a name.
* `describeInstancesByTag_iff`: When the machines found are those of the cluster.
* `describeVolumesByTag_iff`: When the volumes found are those of the cluster.
-/

namespace Xbench

open Text

/-- A machine or a volume, tagged by the cluster that launched it. -/
structure Resource where
  owner : ClusterName
  name : String
  id : String

/-- `f"{self.cluster_name}-{self.vm.name}"`, and the same of storage. -/
def Resource.tag (r : Resource) : String :=
  r.owner.text ++ "-" ++ r.name

inductive Ec2State where
  | pending
  | running
  | shuttingDown
  | terminated
  | stopping
  | stopped
deriving DecidableEq

structure Ec2Instance extends Resource where
  state : Ec2State

/-- `Name=instance-state-name,Values=pending,running`. -/
def Ec2Instance.live (i : Ec2Instance) : Bool :=
  match i.state with
  | .pending => true
  | .running => true
  | _ => false

/-- The machines and the volumes an interface can see. -/
structure Ec2Account where
  instances : List Ec2Instance
  volumes : List Resource
  instanceIds : (instances.map (fun i => i.id)).Nodup
  volumeIds : (volumes.map (fun v => v.id)).Nodup

namespace Ec2Account

variable (account : Ec2Account)

/-- `Name=tag:Name,Values=<cluster_name>*`. -/
def tagged (clusterName : String) (r : Resource) : Bool :=
  decide (StartsWith r.tag clusterName)

/-- `AwsCli.describe_instances_by_tag`. -/
def describeInstancesByTag (clusterName : String) : List Ec2Instance :=
  account.instances.filter (fun i => tagged clusterName i.toResource && i.live)

/-- `AwsCli.describe_volumes_by_tag`. -/
def describeVolumesByTag (clusterName : String) : List Resource :=
  account.volumes.filter (tagged clusterName)

/-- `AbstractCloud.is_running` over an `AwsCli`. -/
def isRunning (clusterName : String) : Bool :=
  decide (0 < (account.describeInstancesByTag clusterName).length)

/-- The live machines that a cluster launched. -/
def instancesOf (c : ClusterName) : List Ec2Instance :=
  account.instances.filter (fun i => decide (i.owner = c) && i.live)

/-- The volumes that a cluster launched. -/
def volumesOf (c : ClusterName) : List Resource :=
  account.volumes.filter (fun v => decide (v.owner = c))

end Ec2Account

/-- A tag that one cluster put on a resource starts with another name: the
    other name is the beginning of the cluster's, or it is the cluster's with
    a hyphen and the beginning of the resource's. -/
def Overlaps (owner name other : String) : Prop :=
  StartsWith owner other ∨ ∃ rest, other = owner ++ "-" ++ rest ∧ StartsWith name rest

/-- Whose tags start with a name. -/
theorem startsWith_tag_iff (r : Resource) (other : String) :
    StartsWith r.tag other ↔ Overlaps r.owner.text r.name other := by
  rw [Resource.tag]
  unfold Overlaps StartsWith
  rw [String.toList_append]
  constructor
  · intro h
    -- the name ends before the hyphen, or it takes the hyphen in
    rcases List.prefix_or_prefix_of_prefix h (List.prefix_append _ _) with hshort | ⟨rest, hrest⟩
    · have hhyphen : ("-" : String).toList = ['-'] := rfl
      rw [String.toList_append, hhyphen, List.prefix_concat_iff] at hshort
      rcases hshort with hwhole | hshort
      · refine Or.inr ⟨"", ?_, List.nil_prefix⟩
        rw [← String.toList_inj, String.append_empty, String.toList_append, hhyphen]
        exact hwhole
      · exact Or.inl hshort
    · refine Or.inr ⟨String.ofList rest, ?_, ?_⟩
      · rw [← String.toList_inj, String.toList_append, String.toList_ofList]
        exact hrest.symm
      · rw [← hrest, List.prefix_append_right_inj] at h
        rw [String.toList_ofList]
        exact h
  · rintro (hshort | ⟨rest, rfl, hrest⟩)
    · rw [String.toList_append, List.append_assoc]
      exact hshort.trans (List.prefix_append _ _)
    · rw [String.toList_append, List.prefix_append_right_inj]
      exact hrest

/-- Two filters agree on a list when they agree on each of its elements. -/
theorem filter_eq_iff {α : Type} (p q : α → Bool) (l : List α) :
    l.filter p = l.filter q ↔ ∀ a ∈ l, p a = q a := by
  constructor
  · intro h a ha
    have hmem : a ∈ l.filter p ↔ a ∈ l.filter q := by rw [h]
    rw [List.mem_filter, List.mem_filter, and_iff_right ha, and_iff_right ha] at hmem
    exact Bool.eq_iff_iff.mpr hmem
  · exact List.filter_congr

namespace Ec2Account

/-- No machine or volume of another cluster has a tag that reads as one of
    this cluster. -/
structure Unambiguous (account : Ec2Account) (c : ClusterName) : Prop where
  instances : ∀ i ∈ account.instances, i.live = true → i.owner ≠ c →
    ¬ Overlaps i.owner.text i.name c.text
  volumes : ∀ v ∈ account.volumes, v.owner ≠ c → ¬ Overlaps v.owner.text v.name c.text

variable (account : Ec2Account) (c : ClusterName)

/-- A resource is found for its own cluster. -/
theorem tagged_own (r : Resource) : tagged r.owner.text r = true := by
  rw [tagged, decide_eq_true_eq, startsWith_tag_iff]
  exact Or.inl (List.prefix_refl _)

/-- The filter is right about a resource unless the resource is of another
    cluster and its tag overlaps. -/
theorem tagged_iff (r : Resource) :
    tagged c.text r = decide (r.owner = c) ↔ (r.owner ≠ c → ¬ Overlaps r.owner.text r.name c.text)
    := by
  by_cases hown : r.owner = c
  · have htagged : tagged c.text r = true := by rw [← hown]; exact tagged_own r
    simp [hown, htagged]
  · rw [tagged, decide_eq_decide, startsWith_tag_iff]
    simp [hown]

theorem describeInstancesByTag_iff :
    account.describeInstancesByTag c.text = account.instancesOf c
      ↔ ∀ i ∈ account.instances, i.live = true → i.owner ≠ c →
          ¬ Overlaps i.owner.text i.name c.text := by
  rw [describeInstancesByTag, instancesOf, filter_eq_iff]
  refine forall₂_congr (fun i _ => ?_)
  cases hlive : i.live with
  | false => simp
  | true =>
      rw [Bool.and_true, Bool.and_true, tagged_iff]
      simp

theorem describeVolumesByTag_iff :
    account.describeVolumesByTag c.text = account.volumesOf c
      ↔ ∀ v ∈ account.volumes, v.owner ≠ c → ¬ Overlaps v.owner.text v.name c.text := by
  rw [describeVolumesByTag, volumesOf, filter_eq_iff]
  exact forall₂_congr (fun v _ => tagged_iff c v)

end Ec2Account

end Xbench
