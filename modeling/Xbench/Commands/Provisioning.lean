import Xbench.Cloud.Clouds
import Xbench.Compute.ClusterFile

/-!
# Provisioning

Configuring a cluster from its topology and allocating its instances.

`configure` renames the tree of the topology. A component becomes the names of
its instances with commas between them, as many as the first environment that
describes it says, and the topology map remembers the renaming.

`allocate` goes over the environments. In each it asks for every instance whose
component the environment describes, on the environment's own cloud if the
instance is provisioned and on the ephemeral cloud if it is not, adds the nodes
that come back to the cluster under their own names, and saves. A missing node
ends it with the state failed and a last save; an exception ends it with no
save at all.

`attempts` is the part of that which does not depend on what has been joined
so far: the environments that are reached, each with what its launching does.
The loop is proved to be that list with the saves in between in the module on
allocation.

## Main definitions

* `EnvironmentComponents`: An environment with its components.
* `Outside`: What the providers answer and the pools choose.
* `Provisioning`: The command.
* `instanceNames`: The instance names of a component.
* `configure`: Naming the instances of a topology.
* `request`: The parameters of one instance.
* `requests`: The instances an environment is asked for.
* `allocateEnv`: Launching in one environment.
* `joinNodes`: Adding the nodes that came back.
* `allocate`: Launching everything.
* `attempts`: The environments that are reached.
-/

namespace Xbench

open Effect
open Text

/-- An environment with its components and their parameters. -/
structure EnvironmentComponents where
  env : Environment
  regionConfig : Params
  components : Dict String Params
  sharedStorage : List VirtualStorage

/-- What the providers answer and the pools choose, in each environment. -/
structure Outside where
  clouds : Environment → CloudType → CloudApi
  schedule : Environment → Schedule Event

structure Provisioning where
  clusterName : String
  topo : String
  envs : List EnvironmentComponents

/-- `get_component_params` of an environment. An empty dictionary is as good
    as none, since every caller tests its truth. -/
def EnvironmentComponents.getComponentParams (env : EnvironmentComponents) (name : String) :
    Option Params :=
  (env.components.get? name).filter (fun params => !params.entries.isEmpty)

section Configure

/-- The name `"cluster"` of the root is skipped wherever it stands. -/
def rootName : String := "cluster"

/-- `get_component_params`: the first environment that describes it. -/
def Provisioning.getComponentParams (self : Provisioning) (name : String) :
    Except Exn Params :=
  match self.envs.findSome? (fun env => env.getComponentParams name) with
  | some params => .ok params
  | none => .error ⟨.xbench, "Component " ++ name ++ " was not found"⟩

/-- The instance names of a component with commas between them. -/
def instanceNames (component : String) (params : Params) : Except Exn String := do
  let count ← pyInt (params.read "count")
  .ok (join ',' ((List.range count.toNat).map (numbered component)))

/-- One node of the topology tree. -/
def Provisioning.configureNode (self : Provisioning) (hash : Dict String String)
    (name : Value) : Except Exn (Dict String String) :=
  match name with
  | .str component =>
      if component = rootName then .ok hash
      else match hash.get? component with
        | some _ => .ok hash
        | none => do
            let params ← self.getComponentParams component
            let names ← instanceNames component params
            .ok (hash.set component names)
  | .list _ => .error ⟨.typeError, "unhashable type: 'list'"⟩
  | .dict _ => .error ⟨.typeError, "unhashable type: 'dict'"⟩
  | v => .error ⟨.xbench, "Component " ++ v.text ++ " was not found"⟩

/-- The name a node of the tree ends up with. -/
def renamed (hash : Dict String String) (name : Value) : String :=
  if name.text = rootName then rootName else (hash.get? name.text).getD name.text

/-- No cloud may have resources of the cluster. -/
def Provisioning.checkNotRunning (self : Provisioning) (out : Outside) :
    List EnvironmentComponents → Except Exn Unit
  | [] => .ok ()
  | env :: rest => do
      let cloud ← createCloudFromStr (out.clouds env.env) env.env.cloud self.clusterName
        env.regionConfig
      if ← isRunning cloud then
        .error ⟨.xbench, "Found resources already running in '" ++ env.env.cloud
          ++ "' for cluster '" ++ self.clusterName
          ++ "'\nDeprovision the resources before continuing."⟩
      else self.checkNotRunning out rest

/-- The cluster that is configured for a topology. -/
def Provisioning.configured (self : Provisioning) (topo : Value) : Except Exn Cluster := do
  let tree := buildTreeFromDict topo
  let hash ← tree.names.foldlM self.configureNode Dict.empty
  .ok
    { clusterName := self.clusterName
      state := .notReady
      topo := self.topo
      envs := []
      members := Dict.empty
      clusterTree := tree.map (renamed hash)
      topoMap := hash
      bt := .new "" "" "" "" 0
      sharedStorage := [] }

/-- `configure`. The source returns nothing; the cluster is the one it saves. -/
def Provisioning.configure (self : Provisioning) (out : Outside) (loadTopo : Except Exn Value) :
    Command Cluster := do
  ofExcept (self.checkNotRunning out self.envs)
  let topo ← ofExcept loadTopo
  let cluster ← ofExcept (self.configured topo)
  tell (.saveCluster cluster)
  pure cluster

end Configure

section Requests

/-- The parameters of one instance of a component. -/
def request (env : EnvironmentComponents) (component implName : String) (params : Params) :
    Params :=
  let params := params.set "env" (.str env.env.name)
  let params := params.set "role" (.str (removeNumbers component))
  let params := params.set "name" (.str implName)
  match params.read "key_file" with
  | .none =>
      params.set "key_file" ((env.regionConfig.get? "key_file").getD (.str ""))
  | _ => params

/-- The instances an environment is asked for: those of the components it
    describes. -/
def requests (env : EnvironmentComponents) (topoMap : Dict String String) : List Params :=
  topoMap.entries.flatMap (fun e =>
    match env.getComponentParams e.1 with
    | some params => (split ',' e.2).map (fun implName => request env e.1 implName params)
    | none => [])

def isProvisioned (params : Params) : Bool :=
  (params.read "provisioned").truthy

/-- `instances_to_launch`. -/
def instancesToLaunch (env : EnvironmentComponents) (topoMap : Dict String String) :
    List Params :=
  (requests env topoMap).filter isProvisioned

/-- `instances_to_fake`. -/
def instancesToFake (env : EnvironmentComponents) (topoMap : Dict String String) :
    List Params :=
  (requests env topoMap).filter (fun params => !isProvisioned params)

end Requests

section Allocate

variable (self : Provisioning) (out : Outside)

/-- A cloud is asked once whether it runs, before its first environment. -/
def Provisioning.checkProvisioned (cloudName : String) (provisionedClouds : List String)
    (cloud : AbstractCloud) : Except Exn Unit :=
  if cloudName ∈ provisionedClouds then .ok ()
  else do
    if ← isRunning cloud then
      .error ⟨.xbench, "Cluster " ++ self.clusterName ++ " already has been provisioned"⟩
    else .ok ()

/-- Nothing is launched when there is nothing to launch. -/
def launchSome (cloud : AbstractCloud) (σ : Schedule Event) (instances : List Params) :
    Command (List (Option Node)) :=
  if instances.isEmpty then pure [] else launchInstancesOf cloud σ instances

/-- What the launching of an environment gives. -/
structure Launched where
  sharedStorage : List VirtualStorage
  nodes : List (Option Node)

/-- Launching in one environment, up to joining the nodes. -/
def Provisioning.allocateEnv (env : EnvironmentComponents) (provisionedClouds : List String)
    (topoMap : Dict String String) : Command Launched := do
  let api := out.clouds env.env
  let ec ← ofExcept (createCloud api .ephemeral self.clusterName env.regionConfig)
  let cloud ← ofExcept
    (createCloudFromStr api env.env.cloud self.clusterName env.regionConfig)
  ofExcept (self.checkProvisioned env.env.cloud provisionedClouds cloud)
  let storage ← launchStorageInstances cloud env.sharedStorage
  let nodes ← launchSome cloud (out.schedule env.env) (instancesToLaunch env topoMap)
  let ephemeralNodes ← launchSome ec (out.schedule env.env) (instancesToFake env topoMap)
  pure ⟨storage, nodes ++ ephemeralNodes⟩

/-- `provisioned_clouds` after an environment. -/
def seen (env : EnvironmentComponents) (provisionedClouds : List String) : List String :=
  if env.env.cloud ∈ provisionedClouds then provisionedClouds
  else provisionedClouds ++ [env.env.cloud]

/-- Adding the nodes that came back, each under its own name. -/
def joinNodes (c : Cluster) : List (Option Node) → Cluster
  | [] => c
  | none :: rest => joinNodes c rest
  | some n :: rest => joinNodes { c.addMember n.vm.name n with state := .allocated } rest

def notProvisioned : Exn :=
  ⟨.xbench, "One or more resources were not provisioned"⟩

/-- The cluster with an environment's nodes joined. -/
def joined (c : Cluster) (env : EnvironmentComponents) (launched : Launched) : Cluster :=
  joinNodes { c with envs := c.envs ++ [env.env], sharedStorage := launched.sharedStorage }
    launched.nodes

/-- The loop over the environments. -/
def Provisioning.allocateEnvs : List EnvironmentComponents → List String → Cluster →
    Command Cluster
  | [], _, c => pure c
  | env :: rest, provisionedClouds, c => do
      let launched ← self.allocateEnv out env provisionedClouds c.topoMap
      if none ∈ launched.nodes then do
        tell (.saveCluster { joined c env launched with state := .failed })
        raise notProvisioned
      else do
        tell (.saveCluster (joined c env launched))
        Provisioning.allocateEnvs rest (seen env provisionedClouds) (joined c env launched)

/-- `except (CloudException, NodeException) as e: raise XbenchException(e)`. -/
def asXbench {α : Type} (x : Command α) : Command α :=
  attempt x (fun e =>
    if e.isA .cloud || e.isA .node then raise ⟨.xbench, e.message⟩ else raise e)

/-- `allocate`. The source returns nothing; the cluster is the one it has in
    hand at the end. -/
def Provisioning.allocate (opens : Cluster → Except Exn Unit) (dir : ClustersDir) :
    Command Cluster := do
  let c ← ofExcept (loadCluster opens dir self.clusterName)
  asXbench (self.allocateEnvs out self.envs [] c)

/-- The environments that are reached, each with what its launching does. -/
def Provisioning.attempts (topoMap : Dict String String) :
    List EnvironmentComponents → List String →
      List (EnvironmentComponents × Command Launched)
  | [], _ => []
  | env :: rest, provisionedClouds =>
      let x := self.allocateEnv out env provisionedClouds topoMap
      (env, x) ::
        match x.result with
        | .ok launched =>
            if none ∈ launched.nodes then []
            else Provisioning.attempts topoMap rest (seen env provisionedClouds)
        | .error _ => []

end Allocate

end Xbench
