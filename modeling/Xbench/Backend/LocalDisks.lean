import Mathlib.Algebra.BigOperators.Group.List.Basic
import Mathlib.Algebra.Ring.Nat
import Xbench.Lib.Text
import Xbench.Cloud.Types

/-!
# Local Disks

The local disks of a machine on EC2, from the description of its type to the
command that makes one device of them.

The cloud writes the devices into one string, with commas, and their number
next to it; the backend cuts the string and counts again. What is between them
is a round trip. The description has the disks in groups with a count for each,
and the cloud takes the count of the first.

## Main definitions

* `InstanceTypeInfo`: The description of a type.
* `AwsNvme`: The local storage of a machine.
* `AwsNvme.create`: Its number of disks and their devices.
* `mdadmCommand`: The command that joins the disks.
* `DiskCounts`: The disks of a type, group by group.
* `Fed`: The storage is the one a machine's command is made from.
* `UsesAll`: Every disk is used.

## Theorems

* `mdadmCommand_fed`: The command is made from the first local storage.
* `split_devices`: The devices come back out of the string.
* `device_inj`: Each device has a name of its own.
* `uses_all_iff`: When every disk is used.
-/

namespace Xbench

open Text

/-- A group of disks of a type. -/
structure DiskGroup where
  count : Option Int

/-- What is read of the description of a type. -/
structure InstanceTypeInfo where
  nvmeSupport : Option String
  localNvme : Bool
  localNvmeDisks : Option (List DiskGroup)

/-- The local storage of a machine. -/
structure AwsNvme where
  vs : VirtualStorage
  instanceTypeInfo : InstanceTypeInfo

namespace AwsNvme

/-- `AwsNvme(..)`, with the description of the type. -/
def ofDescription (clusterName : String) (vs : VirtualStorage) (info : InstanceTypeInfo) :
    AwsNvme :=
  { vs := { vs with name := clusterName ++ "-nvme", id := "nvme-001" }
    instanceTypeInfo := info }

variable (self : AwsNvme)

def isNitroType : Bool :=
  self.instanceTypeInfo.nvmeSupport == some "required"

/-- A Nitro machine has one device for the root. -/
def startFrom : Nat :=
  if self.isNitroType then 1 else 0

/-- The name of a device. -/
def device (i : Nat) : String :=
  "/dev/nvme" ++ toString i ++ "n1"

/-- The names of several devices, one after another. -/
def devices (start count : Nat) : List String :=
  (List.range' start count).map device

/-- What `num_ephemeral` becomes. -/
def numLocalVolumes : Except Exn Int :=
  if self.instanceTypeInfo.localNvme then
    match self.instanceTypeInfo.localNvmeDisks with
    | none => .ok 0
    | some [] => .error ⟨.indexError, "list index out of range"⟩
    | some (first :: _) =>
        match first.count with
        | some n => .ok n
        -- the comparison with one disk fails
        | none => .error ⟨.typeError,
            "'>' not supported between instances of 'NoneType' and 'int'"⟩
  else .ok self.vs.numEphemeral

/-- `create`. -/
def create : Except Exn VirtualStorage := do
  let n ← self.numLocalVolumes
  .ok
    { self.vs with
      numEphemeral := n
      device :=
        if n = 1 then device self.startFrom
        else if 1 < n then join ',' (devices self.startFrom n.toNat)
        else self.vs.device }

end AwsNvme

/-- The command that joins several devices to one. -/
def raidCommand (volumes : List String) : String :=
  "mdadm --create /dev/md0 -l0 -n" ++ toString volumes.length ++ " " ++ join ' ' volumes

/-- The loop of `mdadm_command`; a storage that is not local leaves its device. -/
def mdadmFrom (device : Option String) : List VirtualStorage → Option String × Option String
  | [] => (none, device)
  | storage :: rest =>
      if 0 < storage.numEphemeral then
        let localVolumes := split ',' storage.device
        if 1 < localVolumes.length then (some (raidCommand localVolumes), some "/dev/md0")
        else (none, some storage.device)
      else mdadmFrom (some storage.device) rest

/-- `mdadm_command`. -/
def mdadmCommand (vm : VirtualMachine) : Option String × Option String :=
  mdadmFrom none vm.getAllStorage

/-- The disks of a type, group by group. -/
structure DiskCounts where
  counts : List Nat
  nonempty : counts ≠ []
  positive : ∀ n ∈ counts, 0 < n

namespace DiskCounts

variable (d : DiskCounts)

/-- The description of a type with these disks. -/
def info (nvmeSupport : Option String) : InstanceTypeInfo :=
  ⟨nvmeSupport, true, some (d.counts.map (fun n => ⟨some n⟩))⟩

def total : Nat :=
  d.counts.sum

end DiskCounts

/-- The storage is the first local one of a machine. -/
def Fed (vm : VirtualMachine) (vs : VirtualStorage) : Prop :=
  ∃ before after, vm.getAllStorage = before ++ vs :: after ∧ ∀ s ∈ before, s.numEphemeral ≤ 0

/-- Every disk is used: the storage counts them all, and the command joins as
    many different devices, or there is one disk and no command. -/
def UsesAll (self : AwsNvme) (total : Nat) : Prop :=
  ∃ vs, self.create = .ok vs ∧ vs.numEphemeral = total
    ∧ (AwsNvme.devices self.startFrom total).Nodup
    ∧ ∀ vm, Fed vm vs → mdadmCommand vm
      = if total = 1 then (none, some (AwsNvme.device self.startFrom))
        else (some ("mdadm --create /dev/md0 -l0 -n" ++ toString total ++ " "
          ++ join ' ' (AwsNvme.devices self.startFrom total)), some "/dev/md0")

section Devices

theorem toList_device (i : Nat) :
    (AwsNvme.device i).toList = "/dev/nvme".toList ++ ((toString i).toList ++ "n1".toList) := by
  unfold AwsNvme.device
  rw [String.toList_append, String.toList_append, List.append_assoc]

/-- Each device has a name of its own. -/
theorem device_inj (i j : Nat) (h : AwsNvme.device i = AwsNvme.device j) : i = j := by
  have hlist := congrArg String.toList h
  rw [toList_device, toList_device] at hlist
  have hdigits := List.append_cancel_right (List.append_cancel_left hlist)
  exact toString_inj i j (String.toList_inj.mp hdigits)

theorem comma_notMem_device (i : Nat) : ',' ∉ (AwsNvme.device i).toList := by
  rw [toList_device, List.mem_append, List.mem_append, not_or, not_or]
  refine ⟨by decide, fun h => ?_, by decide⟩
  exact absurd (isDigit_of_mem_toString i ',' h) (by decide)

theorem nodup_devices (start count : Nat) : (AwsNvme.devices start count).Nodup :=
  List.Nodup.map (fun i j h => device_inj i j h) List.nodup_range'

theorem length_devices (start count : Nat) : (AwsNvme.devices start count).length = count := by
  rw [AwsNvme.devices, List.length_map, List.length_range']

/-- The devices come back out of the string. -/
theorem split_devices (start count : Nat) (h : 0 < count) :
    split ',' (join ',' (AwsNvme.devices start count)) = AwsNvme.devices start count := by
  refine split_join ',' _ (fun hnil => ?_) (fun name hname => ?_)
  · have hlength := length_devices start count
    rw [hnil, List.length_nil] at hlength
    omega
  · rcases List.mem_map.mp hname with ⟨i, _, rfl⟩
    exact comma_notMem_device i

end Devices

section Command

/-- Storage that is not local leaves the command to what comes after it. -/
theorem mdadmFrom_append (device : Option String) (before rest : List VirtualStorage)
    (h : ∀ s ∈ before, s.numEphemeral ≤ 0) :
    ∃ device', mdadmFrom device (before ++ rest) = mdadmFrom device' rest := by
  induction before generalizing device with
  | nil => exact ⟨device, rfl⟩
  | cons s before ih =>
      have hs := h s List.mem_cons_self
      have hnot : ¬ 0 < s.numEphemeral := by omega
      rw [List.cons_append, mdadmFrom, if_neg hnot]
      exact ih (some s.device) (fun s' hs' => h s' (List.mem_cons_of_mem s hs'))

/-- The command is made from the first local storage. -/
theorem mdadmCommand_fed (vm : VirtualMachine) (vs : VirtualStorage) (hfed : Fed vm vs)
    (hlocal : 0 < vs.numEphemeral) :
    mdadmCommand vm
      = if 1 < (split ',' vs.device).length then
          (some (raidCommand (split ',' vs.device)), some "/dev/md0")
        else (none, some vs.device) := by
  rcases hfed with ⟨before, after, hall, hbefore⟩
  rcases mdadmFrom_append none before (vs :: after) hbefore with ⟨device', hdevice⟩
  rw [mdadmCommand, hall, hdevice, mdadmFrom, if_pos hlocal]

end Command

section Main

variable (clusterName : String) (vs : VirtualStorage) (nvmeSupport : Option String)
  (d : DiskCounts)

/-- The count of the first group is the number of disks. -/
theorem create_first (n : Nat) (rest : List Nat) (hcounts : d.counts = n :: rest) :
    (AwsNvme.ofDescription clusterName vs (d.info nvmeSupport)).numLocalVolumes
      = .ok (n : Int) := by
  rw [AwsNvme.numLocalVolumes, AwsNvme.ofDescription, DiskCounts.info]
  dsimp only
  rw [if_pos rfl, hcounts]
  rfl

/-- What is created for a number of disks. -/
theorem create_eq (self : AwsNvme) (n : Int) (h : self.numLocalVolumes = .ok n) :
    ∃ vs', self.create = .ok vs' ∧ vs'.numEphemeral = n
      ∧ vs'.device = if n = 1 then AwsNvme.device self.startFrom
        else if 1 < n then join ',' (AwsNvme.devices self.startFrom n.toNat)
        else self.vs.device := by
  rw [AwsNvme.create, h]
  exact ⟨_, rfl, rfl, rfl⟩

/-- The command for as many disks as were counted. -/
theorem mdadmCommand_counted (self : AwsNvme) (n : Nat) (hn : 0 < n) (vs' : VirtualStorage)
    (hcount : vs'.numEphemeral = n)
    (hdevice : vs'.device = if (n : Int) = 1 then AwsNvme.device self.startFrom
      else if 1 < (n : Int) then join ',' (AwsNvme.devices self.startFrom n) else self.vs.device)
    (vm : VirtualMachine) (hfed : Fed vm vs') :
    mdadmCommand vm
      = if n = 1 then (none, some (AwsNvme.device self.startFrom))
        else (some ("mdadm --create /dev/md0 -l0 -n" ++ toString n ++ " "
          ++ join ' ' (AwsNvme.devices self.startFrom n)), some "/dev/md0") := by
  have hlocal : 0 < vs'.numEphemeral := by omega
  rw [mdadmCommand_fed vm vs' hfed hlocal, hdevice]
  by_cases hone : n = 1
  · have hint : (n : Int) = 1 := by omega
    have hsingle := split_of_notMem ',' _ (comma_notMem_device self.startFrom)
    have hnot : ¬ 1 < [AwsNvme.device self.startFrom].length := by
      rw [List.length_singleton]
      omega
    rw [if_pos hint, if_pos hone, hsingle, if_neg hnot]
  · have hint : ¬ (n : Int) = 1 := by omega
    have hmore : 1 < (n : Int) := by omega
    have hlength : 1 < n := by omega
    rw [if_neg hint, if_pos hmore, if_neg hone, split_devices _ n hn]
    have hseveral : 1 < (AwsNvme.devices self.startFrom n).length := by
      rw [length_devices]
      exact hlength
    rw [if_pos hseveral]
    unfold raidCommand
    rw [length_devices]

/-- When every disk is used. -/
theorem uses_all_iff :
    UsesAll (AwsNvme.ofDescription clusterName vs (d.info nvmeSupport)) d.total
      ↔ d.counts.length = 1 := by
  rcases List.exists_cons_of_ne_nil d.nonempty with ⟨n, rest, hcounts⟩
  have hnumber := create_first clusterName vs nvmeSupport d n rest hcounts
  have htotal : d.total = n + rest.sum := by
    rw [DiskCounts.total, hcounts, List.sum_cons]
  have hpositive : 0 < n := d.positive n (by rw [hcounts]; exact List.mem_cons_self)
  generalize AwsNvme.ofDescription clusterName vs (d.info nvmeSupport) = self at hnumber ⊢
  rcases create_eq self n hnumber with ⟨vs, hcreate, hcount, hdevice⟩
  constructor
  · rintro ⟨vs', hvs, htotal', _⟩
    -- the storage has the count of the first group
    rw [hcreate] at hvs
    have hsame : vs = vs' := Except.ok.inj hvs
    rw [← hsame, hcount] at htotal'
    have hsum : rest.sum = 0 := by omega
    have hnil : rest = [] := by
      cases rest with
      | nil => rfl
      | cons m rest =>
          have hm : 0 < m := d.positive m
            (by rw [hcounts]; exact List.mem_cons_of_mem n List.mem_cons_self)
          rw [List.sum_cons] at hsum
          omega
    rw [hcounts, hnil, List.length_singleton]
  · intro hlength
    have hnil : rest = [] := by
      rw [hcounts, List.length_cons] at hlength
      exact List.length_eq_zero_iff.mp (by omega)
    have hsame : d.total = n := by rw [htotal, hnil, List.sum_nil, Nat.add_zero]
    rw [hsame]
    rw [Int.toNat_natCast] at hdevice
    exact ⟨vs, hcreate, hcount, nodup_devices _ n,
      fun vm hfed => mdadmCommand_counted self n hpositive vs hcount hdevice vm hfed⟩

end Main

section Missed

theorem positive_twoGroups : ∀ n ∈ [1, 1], 0 < n := by
  decide

/-- A type with a disk in each of two groups. -/
def twoGroups : DiskCounts where
  counts := [1, 1]
  nonempty := List.cons_ne_nil 1 [1]
  positive := positive_twoGroups

/-- A volume as a machine asks for it. -/
def ephemeralVolume : VirtualStorage :=
  { klass := .virtualStorage, size := 0, iops := 0, type := some "ephemeral"
    device := "/dev/xvdb", zone := "us-west-2a", name := "volume", id := "", numEphemeral := 0 }

/-- Only the disk of the first group is used. -/
theorem second_group_missed :
    (AwsNvme.ofDescription "dev" ephemeralVolume (twoGroups.info (some "required"))).create
        = .ok { ephemeralVolume with
            name := "dev-nvme", id := "nvme-001", numEphemeral := 1, device := "/dev/nvme1n1" }
      ∧ twoGroups.total = 2
      ∧ ¬ UsesAll (AwsNvme.ofDescription "dev" ephemeralVolume (twoGroups.info (some "required")))
        twoGroups.total := by
  refine ⟨rfl, rfl, ?_⟩
  rintro ⟨vs, hcreate, hcount, _⟩
  rw [← Except.ok.inj hcreate] at hcount
  cases hcount

end Missed

end Xbench
