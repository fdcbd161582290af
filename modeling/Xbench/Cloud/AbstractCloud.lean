import Xbench.Compute.RunParallel
import Xbench.Cloud.Colo.Sproutsys

/-!
# The Generic Cloud

What the clouds share: making compute and storage objects, launching and
terminating instances on a thread pool, and the storage that goes with them.

The command line tools of the providers are not part of the code. Their
answers are a `CloudApi`: for each request, what it made and whether it came
back. Which class answers is decided here, by the factories, and so is
everything done with the answers.

Creating an instance may fail after the instance exists, when waiting for it
or describing it fails. A `Creation` therefore has what was made next to the
outcome, and a field says that a machine that is returned is the one that was
made, under the name and the environment it was asked for.

## Main definitions

* `Cli`: The command line interfaces.
* `createCli`: Which cloud has which.
* `createCompute`: Which interface has which compute class.
* `createStorage`: Which storage class a volume gets.
* `Creation`: What a request for an instance made, and its outcome.
* `Attachment`: What attaching a volume came to.
* `storageOf`: The storage as its object's class has it.
* `CloudApi`: The providers' answers.
* `AbstractCloud`: A cloud object.
* `processStorage`: Running a routine on each storage of a machine.
* `zoned`: A machine with its volumes in its own zone.
* `launchStorage`: Creating and attaching a volume.
* `computeVm`: The machine a compute object is made for.
* `computeFromVm`: The machine of a compute object made from a machine.
* `launchInstance`: Creating an instance with its storage.
* `awsLaunchInstance`: The same on AWS.
* `detachStorage`: Letting go of a volume, and destroying it if told to.
* `terminateInstance`: Destroying an instance with its storage.
* `terminateInstances`: Destroying instances on the pool.
-/

namespace Xbench

open Effect

/-- The command line interfaces. -/
inductive Cli where
  | aws
  | gcp
  | rds
  | aurora
  | colo
  | alloyDB
deriving DecidableEq

/-- `isinstance(cli, GcpCli)`: the AlloyDB interface is a subclass. -/
def Cli.isGcp : Cli → Bool
  | .gcp => true
  | .alloyDB => true
  | _ => false

/-- `CliFactory.create_cli`. -/
def createCli : CloudType → Except Exn (Option Cli)
  | .aws => .ok (some .aws)
  | .gcp => .ok (some .gcp)
  | .ephemeral => .ok none
  | .aurora => .ok (some .aurora)
  | .skySql => .ok none
  | .skySql2 => .ok none
  | .colo => .ok (some .colo)
  | .alloyDB => .ok (some .alloyDB)
  | .rds => .error ⟨.cloudCli, "Cloud type not implemented: CloudTypeEnum.Rds"⟩

/-- `cloud_type()` of the cloud class that `CloudFactory` picks. The RDS cloud
    says it is Aurora, which is how it gets an interface at all. -/
def cloudTypeOf : CloudType → CloudType
  | .rds => .aurora
  | t => t

inductive ComputeKlass where
  | awsEc2
  | gcpCompute
  | gcpAlloyDBCompute
  | awsRdsCompute
  | awsAuroraCompute
deriving DecidableEq

/-- `ComputeFactory.create_compute`, up to the class it picks. -/
def createCompute : Option Cli → Except Exn ComputeKlass
  | some .alloyDB => .ok .gcpAlloyDBCompute
  | some .gcp => .ok .gcpCompute
  | some .aws => .ok .awsEc2
  | some _ => .error ⟨.cloud, "Compute type not implemented for CLI"⟩
  | none => .error ⟨.cloud, "Compute type not implemented for CLI: None"⟩

inductive StorageObject where
  | gcpNasStorage
  | gcpStorage
  | awsNvme
  | awsEbs
  | awsS3
  | coloNvme
deriving DecidableEq

def awsEbsTypes : List String :=
  ["io1", "io2", "gp2", "gp3", "st1", "sc1", "standard"]

def storageNotImplemented (s : VirtualStorage) : Exn :=
  ⟨.cloud, "Storage type not implemented: " ++ s.type.getD "None"⟩

/-- `StorageFactory.create_storage`, up to the class it picks. -/
def createStorage (cli : Option Cli) (s : VirtualStorage) : Except Exn StorageObject :=
  match cli with
  | some .gcp | some .alloyDB =>
      if s.type = some "filestore" then .ok .gcpNasStorage else .ok .gcpStorage
  | some .aws =>
      if s.type = some "ephemeral" then .ok .awsNvme
      else if s.type.any (fun t => decide (t ∈ awsEbsTypes)) then .ok .awsEbs
      else if s.type = some "s3" then .ok .awsS3
      else .error (storageNotImplemented s)
  | some .colo =>
      if s.type = some "ephemeral" then .ok .coloNvme else .error (storageNotImplemented s)
  | _ => .error (storageNotImplemented s)

/-- What a request for one instance, or for a service of several nodes, made,
    and its outcome. `made` is the
    identifier that a machine for the instance has. -/
structure Creation (vm : VirtualMachine) where
  made : Option (Option String)
  outcome : Except Exn VirtualMachine
  returned : ∀ v, outcome = .ok v → made = some v.id ∧ v.name = vm.name ∧ v.env = vm.env

/-- `AbstractStorage.__init__`: the storage as its object's own class has it.
    Local disks get a name and an identifier of their own. -/
def storageOf (clusterName : String) (o : StorageObject) (s : VirtualStorage) : VirtualStorage :=
  match o with
  | .gcpNasStorage => { s with klass := .gcpNasVirtualStorage }
  | .awsNvme =>
      { s with klass := .virtualStorage, name := clusterName ++ "-nvme", id := "nvme-001" }
  | .coloNvme =>
      { s with
        klass := .virtualStorage
        name := clusterName ++ "-nvme"
        id := "nvme-001"
        numEphemeral := 1 }
  | _ => { s with klass := .virtualStorage }

/-- What a request for a volume made, and its outcome. -/
structure VolumeCreation (s : VirtualStorage) where
  made : Option String
  outcome : Except Exn VirtualStorage
  returned : ∀ v, outcome = .ok v →
    v.klass = s.klass ∧ v.name = s.name ∧ ∀ id, made = some id → v.id = id

/-- What attaching a volume came to: only its device may be another. -/
structure Attachment (s : VirtualStorage) where
  outcome : Except Exn VirtualStorage
  kept : ∀ v, outcome = .ok v → v = { s with device := v.device }

/-- A database service of SkySQL. -/
structure Service where
  id : String
  host : String
  provider : String
  size : String
deriving DecidableEq

/-- What a request for a service made, and its outcome. -/
structure ServiceCreation where
  made : Option String
  outcome : Except Exn Service
  returned : ∀ s, outcome = .ok s → ∀ id, made = some id → id = s.id

/-- What the colo cloud object has: its hosts, Python's bound on the depth of a
    recursion, the lock file, and whether somebody else holds the PID file. -/
structure ColoState where
  sproutsys : Colo.Sproutsys
  depth : Nat
  lockFile : String
  pidLocked : Bool

/-- The providers' answers. -/
structure CloudApi where
  construct : Except Exn Unit
  running : Except Exn Bool
  describeInstanceType : Value → Except Exn Unit
  placementGroup : Option String
  importKlass : Value → Except Exn Unit
  create : ComputeKlass → Nat → (vm : VirtualMachine) → Creation vm
  colo : ColoState
  hostAddresses : Node → Except Exn (String × String)
  service : Params → ServiceCreation
  openService : Service → Except Exn Unit
  prepareService : VirtualMachine → Except Exn Unit
  describe : VirtualMachine → Except Exn (String × String)
  destroy : ComputeKlass → VirtualMachine → Except Exn Unit
  stop : VirtualMachine → Except Exn Unit
  newStorage : StorageObject → VirtualStorage → Except Exn Unit
  createVolume : StorageObject → (s : VirtualStorage) → VolumeCreation s
  attach : StorageObject → Option String → String → (s : VirtualStorage) → Attachment s
  destroyVolume : StorageObject → VirtualStorage → Except Exn Unit
  destroyService : VirtualMachine → Except Exn Unit
  home : String
  sshOptions : VirtualMachine → Except Exn Unit

/-- A cloud object: its cluster, its class, the region it was made for, its
    command line interface and what the provider answers. -/
structure AbstractCloud where
  clusterName : String
  cloudType : CloudType
  regionConfig : Params
  cli : Option Cli
  api : CloudApi

/-- `try: x except c: return v`. -/
def catching {α : Type} (c : ExnClass) (x : Command α) (v : α) : Command α :=
  attempt x (fun e => if e.isA c then pure v else raise e)

section Storage

/-- `_process_storage_instances`: a routine that gives nothing leaves the
    volume as it was. -/
def processStorageInstances (fn : VirtualStorage → Command (Option VirtualStorage)) :
    List VirtualStorage → Command (List VirtualStorage)
  | [] => pure []
  | s :: rest => do
      let ps ← fn s
      let others ← processStorageInstances fn rest
      pure (ps.getD s :: others)

/-- `_process_storage`: the single storage takes whatever the routine gives,
    nothing included. -/
def processStorage (fn : VirtualStorage → Command (Option VirtualStorage)) (vm : VirtualMachine) :
    Command VirtualMachine := do
  let storage ← vm.storage.elim (pure none) fn
  let storageList ← processStorageInstances fn vm.storageList
  pure { vm with storage := storage, storageList := storageList }

variable (self : AbstractCloud)

/-- `gs.create()`. -/
def createVolume (o : StorageObject) (s : VirtualStorage) : Command VirtualStorage :=
  match (self.api.createVolume o s).made with
  | some id => do
      tell (.createVolume id)
      ofExcept (self.api.createVolume o s).outcome
  | none => ofExcept (self.api.createVolume o s).outcome

/-- `StorageFactory().create_storage(..)`: the object and its storage. -/
def newStorage (s : VirtualStorage) : Command (StorageObject × VirtualStorage) := do
  let o ← ofExcept (createStorage self.cli s)
  ofExcept (self.api.newStorage o s)
  pure (o, storageOf self.clusterName o s)

/-- AWS puts a volume into the zone of the machine it is for. -/
def storageZone (attachToVm : Option VirtualMachine) (s : VirtualStorage) : VirtualStorage :=
  match self.cloudType, attachToVm with
  | .aws, some vm => { s with zone := vm.zone }
  | _, _ => s

/-- It does so in place: a volume that stays in the list as it was requested
    has the zone too. -/
def zoned (vm : VirtualMachine) : VirtualMachine :=
  { vm with storageList := vm.storageList.map (storageZone self (some vm)) }

/-- `launch_storage`. -/
def launchStorage (attachToVm : Option VirtualMachine) (s : VirtualStorage) :
    Command (Option VirtualStorage) :=
  catching .cloud
    (do
      let gs ← newStorage self (storageZone self attachToVm s)
      let created ← createVolume self gs.1 gs.2
      match attachToVm with
      | none => pure (some created)
      | some vm => do
          let attached ← ofExcept (self.api.attach gs.1 vm.id vm.zone created).outcome
          pure (some attached))
    none

/-- `detach_storage`. -/
def detachStorage (vm : VirtualMachine) (s : VirtualStorage) (terminateStorage : Bool) :
    Command (Option VirtualStorage) := do
  tell (.detachStorage vm s terminateStorage)
  let gs ← newStorage self s
  if terminateStorage && !s.isShared then do
    tell (.destroyVolume (some vm) s)
    ofExcept (self.api.destroyVolume gs.1 gs.2)
  pure (some gs.2)

/-- `terminate_storage`. -/
def terminateStorage (s : VirtualStorage) : Command (Option VirtualStorage) := do
  let gs ← newStorage self s
  tell (.destroyVolume none s)
  ofExcept (self.api.destroyVolume gs.1 gs.2)
  pure (some gs.2)

/-- `launch_storage_instances`. -/
def launchStorageInstances (storageList : List VirtualStorage) : Command (List VirtualStorage) :=
  processStorageInstances (launchStorage self none) storageList

/-- `terminate_storage_instances`. -/
def terminateStorageInstances (storageList : List VirtualStorage) :
    Command (List VirtualStorage) :=
  processStorageInstances (terminateStorage self) storageList

end Storage

section Instances

variable (self : AbstractCloud)

/-- The machine a compute object is made for: the cloud has the last word on
    the cluster, on its own name, and on AWS on the placement group. -/
def computeVm (klass : ComputeKlass) (params : Params) : Except Exn VirtualMachine :=
  let params := params.set "cluster_name" (.str self.clusterName)
  match klass with
  | .awsEc2 =>
      let group :=
        if (params.read "use_placement_group").truthy then
          (self.api.placementGroup.map Value.str).getD .none
        else .none
      VirtualMachine.fromDict ((params.set "cloud" (.str "aws")).set "placement_group" group)
  | .gcpCompute => VirtualMachine.fromDict (params.set "cloud" (.str "gcp"))
  | .gcpAlloyDBCompute => VirtualMachine.fromDict (params.set "cloud" (.str "gcp_alloydb"))
  | .awsRdsCompute => VirtualMachine.fromDict (params.set "cloud" (.str "aws_rds"))
  | .awsAuroraCompute => VirtualMachine.fromDict (params.set "cloud" (.str "aws_aurora"))

/-- `create_compute_from_vm`: the machine goes through a dictionary, and the
    cloud has the last word again. -/
def computeFromVm (klass : ComputeKlass) (vm : VirtualMachine) : VirtualMachine :=
  let vm := { vm.asBase with clusterName := self.clusterName }
  match klass with
  | .awsEc2 => { vm with cloud := "aws", placementGroup := none }
  | .gcpCompute => { vm with cloud := "gcp" }
  | .gcpAlloyDBCompute => { vm with cloud := "gcp_alloydb" }
  | .awsRdsCompute => { vm with cloud := "aws_rds" }
  | .awsAuroraCompute => { vm with cloud := "aws_aurora" }

/-- `gc.create()`. -/
def createInstance (klass : ComputeKlass) (nodeCount : Nat) (vm : VirtualMachine) :
    Command VirtualMachine :=
  match (self.api.create klass nodeCount vm).made with
  | some id => do
      tell (.createInstance vm.env id)
      ofExcept (self.api.create klass nodeCount vm).outcome
  | none => ofExcept (self.api.create klass nodeCount vm).outcome

/-- `AbstractCloud.launch_instance`. -/
def launchInstance (params : Params) : Command (Option Node) :=
  catching .cloud
    (do
      let klass ← ofExcept (createCompute self.cli)
      let vm ← ofExcept (computeVm self klass params)
      let created ← createInstance self klass 1 vm
      let stored ← processStorage (launchStorage self (some created)) (zoned self created)
      let node ← ofExcept (Node.ofVm self.api.sshOptions stored)
      pure (some node))
    none

/-- `AwsCloud.launch_instance`: it asks for the instance type first. -/
def awsLaunchInstance (params : Params) : Command (Option Node) :=
  catching .awsCloud
    (do
      ofExcept (self.api.describeInstanceType (params.read "instance_type"))
      launchInstance self params)
    none

/-- `terminate_instance`; the flag's default is `false`. -/
def terminateInstance (n : Node) (terminateStorage : Bool) : Command Unit := do
  let klass ← ofExcept (createCompute self.cli)
  tell (.destroyInstance n.vm)
  ofExcept (self.api.destroy klass n.vm)
  let _ ← processStorage (fun s => detachStorage self n.vm s terminateStorage) n.vm
  pure ()

/-- `self.terminate_instance` as `run_parallel` calls it. -/
def terminateInstanceCall : Call Node Bool → Command Unit
  | .bare n => terminateInstance self n false
  | .positional n [flag] => terminateInstance self n flag
  | .positional n [] => terminateInstance self n false
  | .positional _ _ => raise ⟨.typeError, "terminate_instance() takes 3 positional arguments"⟩
  | .keywords _ => raise ⟨.typeError, "terminate_instance() got an unexpected keyword argument"⟩

/-- `terminate_instances`; the flag's default is `true`. -/
def terminateInstances (σ : Schedule Event) (instances : List Node)
    (terminateStorage : Bool) : Command Unit := do
  let _ ← runParallel σ (instances.map Item.node) (terminateInstanceCall self)
    [terminateStorage] Dict.empty
  pure ()

end Instances

end Xbench
