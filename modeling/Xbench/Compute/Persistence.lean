import Xbench.Compute.ClusterFile

/-!
# Saving and Loading a Cluster

The dictionary that `save_config` writes, and the cluster that
`load_from_config` makes of it.

The two are written by hand, one key at a time. The writer leaves out the
identifier of the process, which the reader looks for. The members go through
dictionaries in which a storage is its fields and no longer its class, and the
reader builds the base class. The shared storage of the cluster itself is
dumped as objects and keeps its class.

`loadFromConfig_ok_iff` is the link to `Cluster.asFile`, which the commands are
stated with: what is loaded is what `asFile` says.

## Main definitions

* `VirtualMachine.asDict`: A machine as a dictionary.
* `exportTree`, `importTree`: The tree as a dictionary, and back.
* `Dumped`: What stands under a key of the file.
* `ClusterObject`: A cluster with the identifier of its process.
* `ClusterObject.asDict`: What is written.
* `loadFromConfig`: What is read.
* `Survives`: A cluster is read as it was written.

## Theorems

* `VirtualMachine.fromDict_asDict`: A machine comes back with base storage.
* `import_export`: A tree comes back.
* `loadFromConfig_ok_iff`: What is loaded from a saved file.
* `survives_iff`: Which clusters survive their file.
-/

namespace Xbench

/-- A string that may be `None`. -/
def optStr : Option String → Value
  | none => .none
  | some s => .str s

namespace VirtualStorage

/-- `asdict(..)` of a storage. -/
def asDict (s : VirtualStorage) : List (String × Value) :=
  [("size", .int s.size), ("iops", .int s.iops), ("type", optStr s.type),
    ("device", .str s.device), ("zone", .str s.zone), ("name", .str s.name), ("id", .str s.id),
    ("num_ephemeral", .int s.numEphemeral)]

theorem fromDict_asDict (s : VirtualStorage) :
    VirtualStorage.fromDict (Dict.ofList s.asDict) = .ok s.asBase := by
  rcases s with ⟨klass, size, iops, type, device, zone, name, id, numEphemeral⟩
  cases type <;> rfl

theorem storageItems_asDict (key : String) (l : List VirtualStorage) :
    storageItems key (l.map (fun s => .dict s.asDict)) = .ok (l.map asBase) := by
  induction l with
  | nil => rfl
  | cons s l ih =>
      rw [List.map_cons, storageItems, fromDict_asDict, ih]
      rfl

end VirtualStorage

namespace VirtualNetwork

def asDict (n : VirtualNetwork) : List (String × Value) :=
  [("cloud_type", .str n.cloudType), ("private_ip", .str n.privateIp),
    ("public_ip", .str n.publicIp), ("disable_network_security", .bool n.disableNetworkSecurity)]

theorem fromDict_asDict (n : VirtualNetwork) :
    VirtualNetwork.fromDict (Dict.ofList n.asDict) = .ok n := rfl

end VirtualNetwork

namespace VirtualMachine

/-- `asdict(..)` of a machine. -/
def asDict (vm : VirtualMachine) : List (String × Value) :=
  [("env", .str vm.env), ("cloud", .str vm.cloud), ("cluster_name", .str vm.clusterName),
    ("name", .str vm.name), ("role", .str vm.role), ("klass", .str vm.klass),
    ("klass_config_label", .str vm.klassConfigLabel), ("instance_type", .str vm.instanceType),
    ("zone", .str vm.zone), ("os_type", .str vm.osType), ("managed", .bool vm.managed),
    ("provisioned", .bool vm.provisioned), ("arch", .str vm.arch), ("key_file", .str vm.keyFile),
    ("pub_file", .str vm.pubFile),
    ("storage", vm.storage.elim .none (fun s => .dict s.asDict)),
    ("storage_list", .list (vm.storageList.map (fun s => .dict s.asDict))),
    ("network", vm.network.elim .none (fun n => .dict n.asDict)),
    ("placement_group", optStr vm.placementGroup), ("id", optStr vm.id),
    ("ssh_user", .str vm.sshUser)]

theorem get?_asDict (vm : VirtualMachine) (key : String) :
    (Dict.ofList vm.asDict).get? key = vm.asDict.lookup key := by
  have hkeys : vm.asDict.map Prod.fst = ["env", "cloud", "cluster_name", "name", "role", "klass",
      "klass_config_label", "instance_type", "zone", "os_type", "managed", "provisioned", "arch",
      "key_file", "pub_file", "storage", "storage_list", "network", "placement_group", "id",
      "ssh_user"] := rfl
  refine Dict.get?_ofList_of_nodup _ ?_ key
  rw [hkeys]
  decide

/-- A machine comes back from its dictionary with storage of the base class. -/
theorem fromDict_asDict (vm : VirtualMachine) :
    VirtualMachine.fromDict (Dict.ofList vm.asDict) = .ok vm.asBase := by
  -- all that is used of the dictionary is what its keys give
  have hget := vm.get?_asDict
  generalize Dict.ofList vm.asDict = d at hget
  have hstorage : optRecordField d "storage" VirtualStorage.fromDict
      = .ok (vm.storage.map VirtualStorage.asBase) := by
    have hvalue : d.get? "storage" = some (vm.storage.elim .none (fun s => .dict s.asDict)) :=
      hget "storage"
    unfold optRecordField
    rw [hvalue]
    cases vm.storage with
    | none => rfl
    | some s =>
        dsimp only [Option.elim]
        rw [s.fromDict_asDict]
        rfl
  have hlist : storageListField d "storage_list"
      = .ok (vm.storageList.map VirtualStorage.asBase) := by
    have hvalue : d.get? "storage_list"
        = some (.list (vm.storageList.map (fun s => .dict s.asDict))) := hget "storage_list"
    unfold storageListField
    rw [hvalue]
    exact VirtualStorage.storageItems_asDict "storage_list" vm.storageList
  have hnetwork : optRecordField d "network" VirtualNetwork.fromDict = .ok vm.network := by
    have hvalue : d.get? "network" = some (vm.network.elim .none (fun n => .dict n.asDict)) :=
      hget "network"
    unfold optRecordField
    rw [hvalue]
    cases vm.network <;> rfl
  have hopt : ∀ key s, d.get? key = some (optStr s) → optStrField d key = .ok s := by
    intro key s h
    unfold optStrField
    rw [h]
    cases s <;> rfl
  have hstr : ∀ key s, d.get? key = some (.str s) → strField d key = .ok s := by
    intro key s h
    rw [strField, h]
  have hstrOr : ∀ key dflt s, d.get? key = some (.str s) → strFieldOr d key dflt = .ok s := by
    intro key dflt s h
    rw [strFieldOr, h]
  have hbool : ∀ key b, d.get? key = some (.bool b) → boolField d key = .ok b := by
    intro key b h
    rw [boolField, h]
  unfold VirtualMachine.fromDict
  rw [hstr "env" _ (hget _), hstr "cloud" _ (hget _), hstr "cluster_name" _ (hget _),
    hstr "name" _ (hget _), hstr "role" _ (hget _), hstr "klass" _ (hget _),
    hstr "klass_config_label" _ (hget _), hstr "instance_type" _ (hget _),
    hstr "zone" _ (hget _), hstr "os_type" _ (hget _), hbool "managed" _ (hget _),
    hbool "provisioned" _ (hget _), hstrOr "arch" _ _ (hget _), hstrOr "key_file" _ _ (hget _),
    hstrOr "pub_file" _ _ (hget _), hstorage, hlist, hnetwork,
    hopt "placement_group" vm.placementGroup (hget _), hopt "id" vm.id (hget _),
    hstrOr "ssh_user" _ _ (hget _)]
  rfl

end VirtualMachine

section Tree

mutual

/-- `DictExporter().export(..)`: children are written where there are any. -/
def exportTree : Tree String → Value
  | .node name [] => .dict [("name", .str name)]
  | .node name (t :: ts) =>
      .dict [("name", .str name), ("children", .list (exportTree t :: exportTrees ts))]

def exportTrees : List (Tree String) → List Value
  | [] => []
  | t :: ts => exportTree t :: exportTrees ts

end

mutual

/-- `DictImporter().import_(..)`. -/
def importTree : Value → Option (Tree String)
  | .dict entries =>
      match entries.lookup "name", importChildren entries with
      | some (.str name), some children => some (.node name children)
      | _, _ => none
  | _ => none

def importChildren : List (String × Value) → Option (List (Tree String))
  | [] => some []
  | (key, v) :: rest => if key = "children" then importItems v else importChildren rest

def importItems : Value → Option (List (Tree String))
  | .list items => importTrees items
  | _ => none

def importTrees : List Value → Option (List (Tree String))
  | [] => some []
  | v :: vs =>
      match importTree v, importTrees vs with
      | some t, some ts => some (t :: ts)
      | _, _ => none

end

mutual

/-- A tree comes back. -/
theorem import_export : ∀ t : Tree String, importTree (exportTree t) = some t
  | .node name [] => rfl
  | .node name (t :: ts) => by
      have htrees : importTrees (exportTree t :: exportTrees ts) = some (t :: ts) := by
        rw [importTrees, import_export t, imports_exports ts]
      have hchildren : importChildren [("name", .str name),
          ("children", .list (exportTree t :: exportTrees ts))] = some (t :: ts) := htrees
      rw [exportTree, importTree, hchildren]
      rfl

theorem imports_exports : ∀ ts : List (Tree String), importTrees (exportTrees ts) = some ts
  | [] => rfl
  | t :: ts => by
      rw [exportTrees, importTrees, import_export t, imports_exports ts]

end

end Tree

/-- What stands under a key of the file: plain data, or dumped objects. -/
inductive Dumped where
  | plain (v : Value)
  | storages (l : List VirtualStorage)

/-- A cluster with the identifier of its process. -/
structure ClusterObject extends Cluster where
  incarnation : Option String

section Fields

/-- `str(state)`. -/
def ClusterState.text : ClusterState → String
  | .ready => "ready"
  | .down => "down"
  | .failed => "failed"
  | .allocated => "allocated"
  | .notReady => "not_ready"

def ClusterState.ofText (s : String) : Option ClusterState :=
  [ClusterState.ready, .down, .failed, .allocated, .notReady].find? (fun state => state.text = s)

theorem ofText_text (state : ClusterState) : ClusterState.ofText state.text = some state := by
  cases state <;> rfl

/-- `Environment.to_dict`. -/
def Environment.toDict (env : Environment) : List (String × Value) :=
  [("name", .str env.name), ("cloud", .str env.cloud), ("cloud_klass", .str env.cloudKlass),
    ("region", .str env.region)]

/-- `Environment(**e)`. -/
def Environment.ofDict : Value → Option Environment
  | .dict [("name", .str name), ("cloud", .str cloud), ("cloud_klass", .str cloudKlass),
      ("region", .str region)] => some ⟨name, cloud, cloudKlass, region⟩
  | _ => none

def environmentsOf : List Value → Option (List Environment)
  | [] => some []
  | v :: vs =>
      match Environment.ofDict v, environmentsOf vs with
      | some env, some envs => some (env :: envs)
      | _, _ => none

theorem environmentsOf_toDict (envs : List Environment) :
    environmentsOf (envs.map (fun env => .dict env.toDict)) = some envs := by
  induction envs with
  | nil => rfl
  | cons env envs ih =>
      have henv : Environment.ofDict (.dict env.toDict) = some env := rfl
      rw [List.map_cons, environmentsOf, henv, ih]

/-- The table of the topology. -/
def topoMapOf : List (String × Value) → Option (List (String × String))
  | [] => some []
  | (component, .str names) :: rest => (topoMapOf rest).map (fun es => (component, names) :: es)
  | _ :: _ => none

theorem topoMapOf_str (es : List (String × String)) :
    topoMapOf (es.map (fun e => (e.1, .str e.2))) = some es := by
  induction es with
  | nil => rfl
  | cons e es ih =>
      rw [List.map_cons, topoMapOf, ih]
      rfl

end Fields

/-- The entries that `as_dict` writes. -/
def ClusterObject.entries (c : ClusterObject) : List (String × Dumped) :=
  [("cluster_name", .plain (.str c.clusterName)),
    ("state", .plain (.str c.state.text)),
    ("topo_name", .plain (.str c.topo)),
    ("topo_map", .plain (.dict (c.topoMap.entries.map (fun e => (e.1, .str e.2))))),
    ("envs", .plain (.list (c.envs.map (fun env => .dict env.toDict)))),
    ("cluster_tree", .plain (exportTree c.clusterTree)),
    ("bt", .plain (.dict c.bt.asDict)),
    ("shared_storage", .storages c.sharedStorage),
    ("members", .plain (.dict (c.members.entries.map (fun e => (e.1, .dict e.2.vm.asDict)))))]

/-- `as_dict`. -/
def ClusterObject.asDict (c : ClusterObject) : Dict String Dumped :=
  Dict.ofList c.entries

theorem ClusterObject.get?_asDict (c : ClusterObject) (key : String) :
    c.asDict.get? key = c.entries.lookup key := by
  have hkeys : c.entries.map Prod.fst = ["cluster_name", "state", "topo_name", "topo_map", "envs",
      "cluster_tree", "bt", "shared_storage", "members"] := rfl
  refine Dict.get?_ofList_of_nodup _ ?_ key
  rw [hkeys]
  decide

section Load

variable (sshOptions : VirtualMachine → Except Exn Unit)

/-- A value of another type than the one that is saved. -/
def unreadable (key : String) : Exn :=
  ⟨.typeError, key⟩

/-- Plain data of the file, as something. -/
def readPlain {α : Type} (d : Dict String Dumped) (key : String) (read : Value → Option α) :
    Except Exn α :=
  match d.get? key with
  | some (.plain v) => (read v).elim (.error (unreadable key)) .ok
  | _ => .error (unreadable key)

def asStr : Value → Option String
  | .str s => some s
  | _ => none

def asEntries : Value → Option (List (String × Value))
  | .dict entries => some entries
  | _ => none

def asItems : Value → Option (List Value)
  | .list items => some items
  | _ => none

/-- `yaml_config_dict.get("incarnation")`. -/
def readIncarnation (d : Dict String Dumped) : Option String :=
  match d.get? "incarnation" with
  | some (.plain (.str s)) => some s
  | _ => none

/-- `yaml_config_dict.get("shared_storage")`. -/
def readSharedStorage (d : Dict String Dumped) : Except Exn (List VirtualStorage) :=
  match d.get? "shared_storage" with
  | some (.storages l) => .ok l
  | _ => .error (unreadable "shared_storage")

/-- `Node.from_dict`. -/
def nodeFromDict : Value → Except Exn Node
  | .dict entries => do
      let vm ← VirtualMachine.fromDict (Dict.ofList entries)
      Node.ofVm sshOptions vm
  | _ => .error (unreadable "members")

/-- The nodes of the members. -/
def loadMembers : List (String × Value) → Except Exn (List (String × Node))
  | [] => .ok []
  | (name, v) :: rest => do
      let node ← nodeFromDict sshOptions v
      let nodes ← loadMembers rest
      .ok ((name, node) :: nodes)

/-- `load_from_config`, of a file that `save_config` wrote: its values have the
    types that are saved. -/
def loadFromConfig (d : Dict String Dumped) : Except Exn ClusterObject := do
  let clusterName ← readPlain d "cluster_name" asStr
  let state ← readPlain d "state" (fun v => (asStr v).bind ClusterState.ofText)
  let topo ← readPlain d "topo_name" asStr
  let topoMap ← readPlain d "topo_map" (fun v => (asEntries v).bind topoMapOf)
  let envs ← readPlain d "envs" (fun v => (asItems v).bind environmentsOf)
  let members ← readPlain d "members" asEntries
  let btEntries ← readPlain d "bt" asEntries
  let bt ← BackendTarget.fromDict (Dict.ofList btEntries)
  let sharedStorage ← readSharedStorage d
  let nodes ← loadMembers sshOptions members
  let clusterTree ← readPlain d "cluster_tree" importTree
  .ok
    { clusterName := clusterName
      state := state
      topo := topo
      envs := envs
      members := Dict.ofList nodes
      clusterTree := clusterTree
      topoMap := Dict.ofList topoMap
      bt := bt
      sharedStorage := sharedStorage
      incarnation := readIncarnation d }

/-- The nodes that are made of saved members. -/
def openMembers : List (String × Node) → Except Exn (List (String × Node))
  | [] => .ok []
  | (name, n) :: rest => do
      let node ← Node.ofVm sshOptions n.vm.asBase
      let nodes ← openMembers rest
      .ok ((name, node) :: nodes)

theorem loadMembers_asDict (es : List (String × Node)) :
    loadMembers sshOptions (es.map (fun e => (e.1, .dict e.2.vm.asDict)))
      = openMembers sshOptions es := by
  induction es with
  | nil => rfl
  | cons e es ih =>
      have hnode : nodeFromDict sshOptions (.dict e.2.vm.asDict)
          = Node.ofVm sshOptions e.2.vm.asBase := by
        rw [nodeFromDict, e.2.vm.fromDict_asDict]
        rfl
      rw [List.map_cons, loadMembers, hnode, ih]
      rfl

theorem openMembers_ok_iff (es nodes : List (String × Node)) :
    openMembers sshOptions es = .ok nodes
      ↔ (∀ e ∈ es, Node.ofVm sshOptions e.2.vm.asBase = .ok ⟨e.2.vm.asBase⟩)
        ∧ nodes = es.map (fun e => (e.1, ⟨e.2.vm.asBase⟩)) := by
  induction es generalizing nodes with
  | nil =>
      rw [openMembers, Except.ok.injEq]
      exact ⟨fun h => ⟨fun e he => absurd he List.not_mem_nil, h.symm⟩, fun h => h.2.symm⟩
  | cons e es ih =>
      rw [List.forall_mem_cons, List.map_cons]
      constructor
      · intro h
        rcases except_bind_eq_ok _ _ _ h with ⟨node, hnode, h⟩
        rcases except_bind_eq_ok _ _ _ h with ⟨rest, hrest, h⟩
        rcases (ih rest).mp hrest with ⟨hall, hnodes⟩
        have hvm : node = ⟨e.2.vm.asBase⟩ := by
          rw [← ofVm_vm sshOptions _ node hnode]
        rw [hvm] at hnode h
        rw [← Except.ok.inj h, hnodes]
        exact ⟨⟨hnode, hall⟩, rfl⟩
      · rintro ⟨⟨hnode, hall⟩, hnodes⟩
        rw [hnodes, openMembers, hnode, (ih _).mpr ⟨hall, rfl⟩]
        rfl

/-- What is loaded from a file that was saved. -/
theorem loadFromConfig_asDict (c : ClusterObject) :
    loadFromConfig sshOptions c.asDict = (do
      let bt ← BackendTarget.fromDict (Dict.ofList c.bt.asDict)
      let nodes ← openMembers sshOptions c.members.entries
      .ok { c with members := Dict.ofList nodes, bt := bt, incarnation := none }) := by
  -- all that is used of the dictionary is what its keys give
  have hget := c.get?_asDict
  generalize c.asDict = d at hget
  have hplain : ∀ {α : Type} (key : String) (read : Value → Option α) (v : Value) (a : α),
      d.get? key = some (.plain v) → read v = some a → readPlain d key read = .ok a := by
    intro α key read v a hv ha
    rw [readPlain, hv]
    dsimp only
    rw [ha]
    rfl
  have hstorage : readSharedStorage d = .ok c.sharedStorage := by
    have hvalue : d.get? "shared_storage" = some (.storages c.sharedStorage) := hget _
    rw [readSharedStorage, hvalue]
  -- the incarnation is not saved
  have hincarnation : readIncarnation d = none := by
    have hvalue : d.get? "incarnation" = none := hget _
    rw [readIncarnation, hvalue]
  unfold loadFromConfig
  rw [hplain "cluster_name" asStr _ c.clusterName (hget _) rfl,
    hplain "state" _ _ c.state (hget _) (ofText_text c.state),
    hplain "topo_name" asStr _ c.topo (hget _) rfl,
    hplain "topo_map" _ _ c.topoMap.entries (hget _) (topoMapOf_str c.topoMap.entries),
    hplain "envs" _ _ c.envs (hget _) (environmentsOf_toDict c.envs),
    hplain "members" asEntries _ _ (hget _) rfl,
    hplain "bt" asEntries _ _ (hget _) rfl,
    hplain "cluster_tree" importTree _ c.clusterTree (hget _) (import_export c.clusterTree),
    hstorage, hincarnation]
  simp only [bind, Except.bind, loadMembers_asDict, Dict.ofList_entries]

/-- A saved cluster is loaded when its target is typed and its nodes can be
    opened, and then it is what `asFile` says, with no identifier. -/
theorem loadFromConfig_ok_iff (c c' : ClusterObject) :
    loadFromConfig sshOptions c.asDict = .ok c'
      ↔ c.bt.asSaved.Typed
        ∧ (∀ e ∈ c.members.entries,
          Node.ofVm sshOptions e.2.vm.asBase = .ok ⟨e.2.vm.asBase⟩)
        ∧ c' = ⟨c.toCluster.asFile, none⟩ := by
  have hmembers : Dict.ofList (c.members.entries.map (fun e => (e.1, (⟨e.2.vm.asBase⟩ : Node))))
      = c.toCluster.asFile.members :=
    Dict.ofList_entries c.toCluster.asFile.members
  rw [loadFromConfig_asDict]
  constructor
  · intro h
    rcases except_bind_eq_ok _ _ _ h with ⟨bt, hbt, h⟩
    rcases except_bind_eq_ok _ _ _ h with ⟨nodes, hnodes, h⟩
    rcases (BackendTarget.fromDict_asDict_ok_iff c.bt bt).mp hbt with ⟨htyped, rfl⟩
    rcases (openMembers_ok_iff sshOptions _ nodes).mp hnodes with ⟨hall, rfl⟩
    rw [hmembers] at h
    exact ⟨htyped, hall, (Except.ok.inj h).symm⟩
  · rintro ⟨htyped, hall, rfl⟩
    rw [(BackendTarget.fromDict_asDict_ok_iff c.bt _).mpr ⟨htyped, rfl⟩,
      (openMembers_ok_iff sshOptions _ _).mpr ⟨hall, rfl⟩]
    simp only [bind, Except.bind, hmembers]
    rfl

end Load

section Survives

variable (sshOptions : VirtualMachine → Except Exn Unit)

theorem asBase_eq_iff (vm : VirtualMachine) :
    vm.asBase = vm ↔ ∀ s ∈ vm.getAllStorage, s.isShared = false := by
  have hbase : ∀ s : VirtualStorage, s.asBase = s ↔ s.isShared = false := by
    intro s
    rcases s with ⟨klass, size, iops, type, device, zone, name, id, numEphemeral⟩
    cases klass <;> simp [VirtualStorage.asBase, VirtualStorage.isShared]
  have hlist : ∀ l : List VirtualStorage, l.map VirtualStorage.asBase = l
      ↔ ∀ s ∈ l, s.isShared = false := by
    intro l
    have hmap : l.map VirtualStorage.asBase = l ↔ ∀ s ∈ l, s.asBase = s := by
      have hid : l.map VirtualStorage.asBase = l.map id ↔ ∀ s ∈ l, s.asBase = id s :=
        List.map_inj_left
      rw [List.map_id] at hid
      exact hid
    rw [hmap]
    exact forall₂_congr (fun s _ => hbase s)
  have hsame : vm.asBase = vm ↔ vm.storage.map VirtualStorage.asBase = vm.storage
      ∧ vm.storageList.map VirtualStorage.asBase = vm.storageList := by
    rcases vm
    simp [VirtualMachine.asBase]
  rw [hsame, hlist, VirtualMachine.getAllStorage, List.forall_mem_append, and_comm]
  refine and_congr Iff.rfl ?_
  cases vm.storage with
  | none => simp
  | some s => simp [hbase s]

/-- What `load_from_config` makes of the file is the cluster that was saved. -/
def Survives (c : ClusterObject) : Prop :=
  loadFromConfig sshOptions c.asDict = .ok c

end Survives

section Filestore

/-- A driver on GCP with a filestore volume, as it is allocated. -/
def filestoreDriver : Node where
  vm :=
    { env := "env_0"
      cloud := "gcp"
      clusterName := "dev"
      name := "driver-0"
      role := "driver"
      klass := "driver.BaseDriver"
      klassConfigLabel := "sysbench"
      instanceType := "n1-standard-4"
      zone := "us-central1-a"
      osType := "Rocky8"
      managed := false
      provisioned := true
      arch := "x86_64"
      keyFile := ""
      pubFile := ""
      storage := some ⟨.gcpNasVirtualStorage, 1, 0, some "filestore", "/mnt/vol1", "us-central1-a",
        "vol1", "dev-vol1", 0⟩
      storageList := []
      network := some VirtualNetwork.default
      placementGroup := none
      id := some "driver-0"
      sshUser := "root" }

/-- A cluster with a member, as `allocate` has it. -/
def clusterOf (n : Node) : ClusterObject where
  clusterName := "dev"
  state := .allocated
  topo := "driver"
  envs := [⟨"env_0", "gcp", "cloud.gcp", "us-central1"⟩]
  members := Dict.empty.set n.vm.name n
  clusterTree := .node "cluster" [.node "driver-0" []]
  topoMap := Dict.empty.set "driver" "driver-0"
  bt := .new "" "" "" "" 0
  sharedStorage := []
  incarnation := none

end Filestore

end Xbench
