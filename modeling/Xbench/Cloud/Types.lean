import Xbench.Lib.Effect
import Xbench.Config.Value

/-!
# Virtual Machines, Storage and Clouds

The records the clouds pass around, and how they are built from a parameter
dictionary.

`fromDict` fills a record field by field: a required field must be there, a
field with a default may be missing, and a value of the wrong type is refused.
Unknown keys are ignored, which is why the same dictionary can carry the
parameters of a component and the fields of its virtual machine. The refusal
is not a `CloudException`, so nothing that launches an instance catches it.

A node wraps a virtual machine that can be reached. Building one for a managed
machine opens a client, which needs a network and a key and may fail; whether
the client library accepts the key is not decided here, so it is a parameter.

## Main definitions

* `VirtualStorage`: A volume, with its class.
* `VirtualStorage.isShared`: Only the network storage class is shared.
* `VirtualNetwork`: The addresses of a machine.
* `VirtualMachine`: A machine of a cluster.
* `VirtualMachine.asBase`: A machine that went through a dictionary.
* `VirtualMachine.getAllStorage`: All its volumes.
* `VirtualMachine.fromDict`: Building one from parameters.
* `Node`: A machine that can be reached.
* `Node.ofVm`: Building one.
* `CloudType`: The clouds.
* `CloudType.fromString`: The names an environment may use.

## Theorems

* `fromDict_env_name`: A built machine has the environment and the name it was
  asked for.
* `ofVm_vm`: A node keeps its machine.
-/

namespace Xbench

/-- The class of a storage object. Storage that has been through a cluster
    file comes back as the base class. -/
inductive StorageKlass where
  | virtualStorage
  | gcpNasVirtualStorage
deriving DecidableEq

structure VirtualStorage where
  klass : StorageKlass
  size : Int
  iops : Int
  type : Option String
  device : String
  zone : String
  name : String
  id : String
  numEphemeral : Int
deriving DecidableEq

/-- `storage.is_shared`. -/
def VirtualStorage.isShared (s : VirtualStorage) : Bool :=
  match s.klass with
  | .virtualStorage => false
  | .gcpNasVirtualStorage => true

structure VirtualNetwork where
  cloudType : String
  privateIp : String
  publicIp : String
  disableNetworkSecurity : Bool
deriving DecidableEq

def VirtualNetwork.default : VirtualNetwork :=
  ⟨"public_cloud", "127.0.0.1", "127.0.0.1", true⟩

structure VirtualMachine where
  env : String
  cloud : String
  clusterName : String
  name : String
  role : String
  klass : String
  klassConfigLabel : String
  instanceType : String
  zone : String
  osType : String
  managed : Bool
  provisioned : Bool
  arch : String
  keyFile : String
  pubFile : String
  storage : Option VirtualStorage
  storageList : List VirtualStorage
  network : Option VirtualNetwork
  placementGroup : Option String
  id : Option String
  sshUser : String
deriving DecidableEq

/-- Storage that went through a dictionary is of the base class. -/
def VirtualStorage.asBase (s : VirtualStorage) : VirtualStorage :=
  { s with klass := .virtualStorage }

/-- A machine that went through a dictionary. -/
def VirtualMachine.asBase (vm : VirtualMachine) : VirtualMachine :=
  { vm with
    storage := vm.storage.map VirtualStorage.asBase
    storageList := vm.storageList.map VirtualStorage.asBase }

/-- `get_all_storage`. -/
def VirtualMachine.getAllStorage (vm : VirtualMachine) : List VirtualStorage :=
  vm.storageList ++ vm.storage.toList

section FromDict

def missingValue (key : String) : Exn :=
  ⟨.dacite, "missing value for field \"" ++ key ++ "\""⟩

def wrongType (key : String) : Exn :=
  ⟨.dacite, "wrong value type for field \"" ++ key ++ "\""⟩

/-- A required string. -/
def strField (d : Params) (key : String) : Except Exn String :=
  match d.get? key with
  | some (.str s) => .ok s
  | some _ => .error (wrongType key)
  | none => .error (missingValue key)

/-- A required boolean. -/
def boolField (d : Params) (key : String) : Except Exn Bool :=
  match d.get? key with
  | some (.bool b) => .ok b
  | some _ => .error (wrongType key)
  | none => .error (missingValue key)

/-- A string with a default. -/
def strFieldOr (d : Params) (key dflt : String) : Except Exn String :=
  match d.get? key with
  | some (.str s) => .ok s
  | some _ => .error (wrongType key)
  | none => .ok dflt

/-- An integer with a default; a boolean is an integer. -/
def intFieldOr (d : Params) (key : String) (dflt : Int) : Except Exn Int :=
  match d.get? key with
  | some (.int n) => .ok n
  | some (.bool b) => .ok (if b then 1 else 0)
  | some _ => .error (wrongType key)
  | none => .ok dflt

/-- A boolean with a default. -/
def boolFieldOr (d : Params) (key : String) (dflt : Bool) : Except Exn Bool :=
  match d.get? key with
  | some (.bool b) => .ok b
  | some _ => .error (wrongType key)
  | none => .ok dflt

/-- An optional string, `None` by default. -/
def optStrField (d : Params) (key : String) : Except Exn (Option String) :=
  match d.get? key with
  | some (.str s) => .ok (some s)
  | some .none => .ok none
  | some _ => .error (wrongType key)
  | none => .ok none

/-- `from_dict(data_class=VirtualStorage, ..)`. -/
def VirtualStorage.fromDict (d : Params) : Except Exn VirtualStorage := do
  let size ← intFieldOr d "size" 0
  let iops ← intFieldOr d "iops" 0
  let type ← optStrField d "type"
  let device ← strFieldOr d "device" "/dev/xvdb"
  let zone ← strFieldOr d "zone" "us_west_2a"
  let name ← strFieldOr d "name" "volume"
  let id ← strFieldOr d "id" ""
  let numEphemeral ← intFieldOr d "num_ephemeral" 0
  .ok ⟨.virtualStorage, size, iops, type, device, zone, name, id, numEphemeral⟩

/-- `from_dict(data_class=VirtualNetwork, ..)`. -/
def VirtualNetwork.fromDict (d : Params) : Except Exn VirtualNetwork := do
  let cloudType ← strFieldOr d "cloud_type" "public_cloud"
  let privateIp ← strFieldOr d "private_ip" "127.0.0.1"
  let publicIp ← strFieldOr d "public_ip" "127.0.0.1"
  let security ← boolFieldOr d "disable_network_security" true
  .ok ⟨cloudType, privateIp, publicIp, security⟩

/-- A nested record that may be `None`. -/
def optRecordField {α : Type} (d : Params) (key : String) (build : Params → Except Exn α) :
    Except Exn (Option α) :=
  match d.get? key with
  | some (.dict entries) => (build (Dict.ofList entries)).map some
  | some .none => .ok none
  | some _ => .error (wrongType key)
  | none => .ok none

/-- A list of nested storage records. -/
def storageItems (key : String) : List Value → Except Exn (List VirtualStorage)
  | [] => .ok []
  | .dict entries :: rest => do
      let s ← VirtualStorage.fromDict (Dict.ofList entries)
      let ss ← storageItems key rest
      .ok (s :: ss)
  | _ :: _ => .error (wrongType key)

def storageListField (d : Params) (key : String) : Except Exn (List VirtualStorage) :=
  match d.get? key with
  | some (.list items) => storageItems key items
  | some _ => .error (wrongType key)
  | none => .ok []

/-- `from_dict(data_class=VirtualMachine, ..)`. -/
def VirtualMachine.fromDict (d : Params) : Except Exn VirtualMachine := do
  let env ← strField d "env"
  let cloud ← strField d "cloud"
  let clusterName ← strField d "cluster_name"
  let name ← strField d "name"
  let role ← strField d "role"
  let klass ← strField d "klass"
  let klassConfigLabel ← strField d "klass_config_label"
  let instanceType ← strField d "instance_type"
  let zone ← strField d "zone"
  let osType ← strField d "os_type"
  let managed ← boolField d "managed"
  let provisioned ← boolField d "provisioned"
  let arch ← strFieldOr d "arch" "x86_64"
  let keyFile ← strFieldOr d "key_file" ""
  let pubFile ← strFieldOr d "pub_file" ""
  let storage ← optRecordField d "storage" VirtualStorage.fromDict
  let storageList ← storageListField d "storage_list"
  let network ← optRecordField d "network" VirtualNetwork.fromDict
  let placementGroup ← optStrField d "placement_group"
  let id ← optStrField d "id"
  let sshUser ← strFieldOr d "ssh_user" "root"
  .ok
    { env := env
      cloud := cloud
      clusterName := clusterName
      name := name
      role := role
      klass := klass
      klassConfigLabel := klassConfigLabel
      instanceType := instanceType
      zone := zone
      osType := osType
      managed := managed
      provisioned := provisioned
      arch := arch
      keyFile := keyFile
      pubFile := pubFile
      storage := storage
      storageList := storageList
      network := network
      placementGroup := placementGroup
      id := id
      sshUser := sshUser }

end FromDict

theorem strField_ok (d : Params) (key s : String) (h : strField d key = .ok s) :
    d.get? key = some (.str s) := by
  unfold strField at h
  cases hd : d.get? key with
  | none =>
      rw [hd] at h
      exact nomatch h
  | some v =>
      rw [hd] at h
      cases v with
      | str t => rw [Except.ok.inj h]
      | _ => exact nomatch h

/-- A built machine has the environment and the name it was asked for. -/
theorem fromDict_env_name (d : Params) (vm : VirtualMachine)
    (h : VirtualMachine.fromDict d = .ok vm) :
    d.get? "env" = some (.str vm.env) ∧ d.get? "name" = some (.str vm.name) := by
  unfold VirtualMachine.fromDict at h
  rcases except_bind_eq_ok _ _ _ h with ⟨env, henv, h⟩
  rcases except_bind_eq_ok _ _ _ h with ⟨_, _, h⟩
  rcases except_bind_eq_ok _ _ _ h with ⟨_, _, h⟩
  rcases except_bind_eq_ok _ _ _ h with ⟨name, hname, h⟩
  -- the seventeen fields after the name
  iterate 17 rcases except_bind_eq_ok _ _ _ h with ⟨_, _, h⟩
  rw [← Except.ok.inj h]
  exact ⟨strField_ok d "env" env henv, strField_ok d "name" name hname⟩

/-- A machine that can be reached. -/
structure Node where
  vm : VirtualMachine
deriving DecidableEq

/-- The operating systems there is a package manager for. -/
def allOsTypes : List String :=
  ["AmazonLinux2", "CentOS7", "CentOS8", "Rocky8", "RHEL7"]

/-- `Node(vm)`. `sshOptions` is the client library's answer to the key file
    and the user of a managed machine. -/
def Node.ofVm (sshOptions : VirtualMachine → Except Exn Unit) (vm : VirtualMachine) :
    Except Exn Node :=
  if vm.managed then
    if vm.osType ∈ allOsTypes then
      match vm.network with
      | none => .error ⟨.attributeError, "'NoneType' object has no attribute 'get_public_iface'"⟩
      | some _ => (sshOptions vm).map (fun _ => ⟨vm⟩)
    else .error ⟨.node, "OS " ++ vm.osType ++ " is not implemented"⟩
  else .ok ⟨vm⟩

theorem ofVm_vm (sshOptions : VirtualMachine → Except Exn Unit) (vm : VirtualMachine) (n : Node)
    (h : Node.ofVm sshOptions vm = .ok n) : n.vm = vm := by
  unfold Node.ofVm at h
  by_cases hm : vm.managed = true
  · rw [if_pos hm] at h
    by_cases hos : vm.osType ∈ allOsTypes
    · rw [if_pos hos] at h
      cases hnet : vm.network with
      | none =>
          rw [hnet] at h
          exact nomatch h
      | some net =>
          simp only [hnet] at h
          cases hssh : sshOptions vm with
          | error e =>
              rw [hssh] at h
              exact nomatch h
          | ok u =>
              rw [hssh] at h
              rw [← Except.ok.inj h]
    · rw [if_neg hos] at h
      exact nomatch h
  · rw [if_neg hm] at h
    rw [← Except.ok.inj h]

/-- `CloudTypeEnum`. -/
inductive CloudType where
  | aws
  | gcp
  | ephemeral
  | aurora
  | skySql
  | colo
  | skySql2
  | rds
  | alloyDB
deriving DecidableEq

/-- `CloudTypeEnum.from_string`. -/
def CloudType.fromString (cloudStr : String) : Except Exn CloudType :=
  if cloudStr = "aws" then .ok .aws
  else if cloudStr = "gcp" then .ok .gcp
  else if cloudStr = "aws_aurora" then .ok .aurora
  else if cloudStr = "aws_rds" then .ok .rds
  else if cloudStr = "skysql" then .ok .skySql
  else if cloudStr = "skysql2" then .ok .skySql2
  else if cloudStr = "colo" then .ok .colo
  else if cloudStr = "gcp_alloydb" then .ok .alloyDB
  else .error ⟨.cloud, "Unknown cloud type string: " ++ cloudStr⟩

end Xbench
