import Xbench.Cloud.AbstractCloud
import Xbench.Cloud.Aws.Rds

/-!
# The Clouds

How each cloud class launches, terminates, starts and stops instances: the
generic way on AWS and GCP, and the overrides of the others.

The overrides differ most in what they return. SkySQL, Aurora and RDS take the
first of the requested instances and return one node, however many were asked
for. AlloyDB and the second SkySQL make one service and return a copy of its
node for each name. The colo cloud locks hosts first and then deploys to them
on the pool. The ephemeral cloud makes nothing up but the nodes.

A colo host counts as created when its line is in the lock file: from then on
it is taken, whatever becomes of the deployment.

## Main definitions

* `launchInstances`: Each instance on the pool.
* `namedCopies`: A copy of a machine for each requested name.
* `coloLaunchInstances`: Locking hosts and deploying to them.
* `serviceNode`: A service and the node that stands for it.
* `skySqlLaunchInstances`: One service, one node.
* `skySql2LaunchInstances`: One service, a node for each name.
* `rdsLaunchInstances`: One database, one node; Aurora does the same.
* `alloyDBLaunchInstances`: One cluster, a node for each name.
* `ephemeralLaunchInstances`: Nodes for what is managed elsewhere.
* `launchInstancesOf`: `launch_instances` of a cloud object.
* `terminateInstancesOf`: `terminate_instances` of a cloud object.
* `stopInstancesOf`: `stop_instances` of a cloud object.
* `startInstancesOf`: `start_instances` of a cloud object.
* `createCloud`: Making a cloud object.
* `isRunning`: `is_running` of a cloud object.

## Theorems

* `createCloud_ok`: A cloud object is of the class it was asked for.
-/

namespace Xbench

open Effect

variable (self : AbstractCloud)

/-- `launch_instances` of the generic cloud. -/
def launchInstances (σ : Schedule Event) (launch : Params → Command (Option Node))
    (instances : List Params) : Command (List (Option Node)) :=
  runParallelReturning σ (instances.map (Item.dict (ω := Node)))
    (fun call : Call Node (Packed Unit) =>
      match call with
      | .keywords params => launch params
      | _ => raise ⟨.typeError, "launch_instance() takes 1 positional argument"⟩)
    [] Dict.empty

/-- A copy of a machine for each requested name. -/
def namedCopies (vm : VirtualMachine) : List Params → Except Exn (List (Option Node))
  | [] => .ok []
  | params :: rest => do
      let node ← Node.ofVm self.api.sshOptions { vm with name := (params.read "name").text }
      let nodes ← namedCopies vm rest
      .ok (some node :: nodes)

def indexError : Exn :=
  ⟨.indexError, "list index out of range"⟩

section Launch

/-- The identifier `deploy_host` gives a machine. -/
def coloId (clusterName : String) (params : Params) (host : HostName) : String :=
  "colo-" ++ (params.read "name").text ++ "-" ++ clusterName ++ "-" ++ host.text

/-- `SproutsysCLI.deploy_host`. -/
def deployHost (params : Params) : Command (Option Node) := do
  let vm ← ofExcept (VirtualMachine.fromDict params)
  match vm.network with
  | none => raise ⟨.attributeError, "'NoneType' object has no attribute 'public_ip'"⟩
  | some network => do
      let host := (params.read "colo_host").text
      let placed :=
        { vm with
          id := some
            ("colo-" ++ (params.read "name").text ++ "-" ++ self.clusterName ++ "-" ++ host)
          zone := "not a real zone"
          storage := vm.storage.map (fun s => { s with zone := "not a real zone" })
          network := some { network with publicIp := host } }
      let node ← ofExcept (Node.ofVm self.api.sshOptions placed)
      let ips ← ofExcept (self.api.hostAddresses node)
      pure (some
        ⟨{ placed with network := some { network with publicIp := ips.1, privateIp := ips.2 } }⟩)

/-- The loop under the PID file, with the hosts it takes as the instances that
    come into being. -/
def coloLockHosts (instances : List Params) : Command (List Params) := do
  let c := self.api.colo
  let run := Colo.lockHosts c.sproutsys c.depth instances c.sproutsys.hostList c.lockFile
  tell (.writeLockFile run.file)
  tellAll ((instances.zip run.hosts).map (fun x =>
    .createInstance (x.1.read "env").text (some (coloId self.clusterName x.1 x.2))))
  ofExcept run.result

def pidLocked : Exn :=
  ⟨.cloud, "Xbench is already running.  Try again later"⟩

/-- `Sproutsys.launch_instances`. -/
def coloLaunchInstances (σ : Schedule Event) (instances : List Params) :
    Command (List (Option Node)) :=
  if self.api.colo.pidLocked then raise pidLocked
  else do
    let locked ← coloLockHosts self instances
    launchInstances σ (deployHost self) locked

/-- Asking SkySQL for a service. -/
def createService (params : Params) : Command Service :=
  match (self.api.service params).made with
  | some id => do
      tell (.createInstance (params.read "env").text (some id))
      ofExcept (self.api.service params).outcome
  | none => ofExcept (self.api.service params).outcome

/-- The machine that stands for a service. -/
def serviceVm (service : Service) (instanceType : String) (vm : VirtualMachine) :
    VirtualMachine :=
  { vm with
    cloud := service.provider
    id := some service.id
    instanceType := instanceType
    network :=
      some { VirtualNetwork.default with cloudType := "public_cloud", publicIp := service.host }
    zone := "not a real zone"
    clusterName := self.clusterName }

/-- A service for the first instance, and the node that stands for it. -/
def serviceNode (instanceType : Service → VirtualMachine → String) (params : Params) :
    Command Node := do
  ofExcept (self.api.importKlass (params.read "klass"))
  let service ← createService self params
  ofExcept (self.api.openService service)
  let vm ← ofExcept (VirtualMachine.fromDict params)
  let node ← ofExcept (Node.ofVm self.api.sshOptions
    (serviceVm self service (instanceType service vm) vm))
  ofExcept (self.api.prepareService node.vm)
  pure node

/-- `SkySQLCloud.launch_instances`: the first instance only. -/
def skySqlLaunchInstances : List Params → Command (List (Option Node))
  | [] => raise indexError
  | params :: _ => do
      let node ← serviceNode self (fun service _ => service.size) params
      pure [some node]

/-- `SkySQLCloud2.launch_instances`: a node for each name if there are
    several. -/
def skySql2LaunchInstances : List Params → Command (List (Option Node))
  | [] => raise indexError
  | params :: rest => do
      let node ← serviceNode self (fun _ vm => vm.instanceType) params
      if rest.isEmpty then do
        let node ← ofExcept (Node.ofVm self.api.sshOptions node.vm)
        pure [some node]
      else ofExcept (namedCopies self node.vm (params :: rest))

/-- `AwsRdsCloud.launch_instances`: the first instance only. -/
def rdsLaunchInstances : List Params → Command (List (Option Node))
  | [] => raise indexError
  | params :: _ => do
      let vm ← ofExcept (computeVm self .awsRdsCompute params)
      let wrapped ← ofExcept (Node.ofVm self.api.sshOptions vm)
      let created ← createInstance self .awsRdsCompute 1
        { wrapped.vm with id := some (Rds.identifier vm.instanceType) }
      let node ← ofExcept (Node.ofVm self.api.sshOptions created)
      pure [some node]

/-- `AwsAuroraCloud.launch_instances`: the first instance only. -/
def auroraLaunchInstances : List Params → Command (List (Option Node))
  | [] => raise indexError
  | params :: _ => do
      let vm ← ofExcept (computeVm self .awsAuroraCompute params)
      ofExcept (self.api.importKlass (params.read "klass"))
      let wrapped ← ofExcept (Node.ofVm self.api.sshOptions vm)
      let created ← createInstance self .awsAuroraCompute 1 wrapped.vm
      let node ← ofExcept (Node.ofVm self.api.sshOptions created)
      pure [some node]

/-- `GcpAlloyDBCloud.launch_instances`: a node for each name if there are
    several. -/
def alloyDBLaunchInstances : List Params → Command (List (Option Node))
  | [] => raise indexError
  | params :: rest => do
      let vm ← ofExcept (computeVm self .gcpAlloyDBCompute params)
      let created ← createInstance self .gcpAlloyDBCompute (rest.length + 1) vm
      if rest.isEmpty then do
        let node ← ofExcept (Node.ofVm self.api.sshOptions created)
        pure [some node]
      else ofExcept (namedCopies self created (params :: rest))

/-- `EphemeralCloud.default_config`. -/
def ephemeralDefaults : Params :=
  Dict.ofList
    [("cloud", .str "Ephemeral"),
      ("cluster_name", .str self.clusterName),
      ("id", .str "e-12345678"),
      ("ssh_user", .str "nobody"),
      ("key_file", .str (self.api.home ++ "/.xbench/pem/xbench.pem")),
      ("instance_type", .str "ec2"),
      ("zone", .str "wild_west_2"),
      ("os_type", .str "CentOS7"),
      ("managed", .bool false),
      ("network", .dict
        [("cloud_type", .str "public_cloud"),
          ("private_ip", .str "0.0.0.0"),
          ("public_ip", self.regionConfig.read "public_ip")])]

/-- `EphemeralCloud.launch_instances`. -/
def ephemeralLaunchInstances : List Params → Except Exn (List (Option Node))
  | [] => .ok []
  | params :: rest => do
      let vm ← VirtualMachine.fromDict ((ephemeralDefaults self).union params)
      let node ← Node.ofVm self.api.sshOptions vm
      let nodes ← ephemeralLaunchInstances rest
      .ok (some node :: nodes)

/-- `launch_instances` of a cloud object. -/
def launchInstancesOf (σ : Schedule Event) (instances : List Params) :
    Command (List (Option Node)) :=
  match self.cloudType with
  | .aws => launchInstances σ (awsLaunchInstance self) instances
  | .gcp => launchInstances σ (launchInstance self) instances
  | .colo => coloLaunchInstances self σ instances
  | .skySql => skySqlLaunchInstances self instances
  | .skySql2 => skySql2LaunchInstances self instances
  | .rds => rdsLaunchInstances self instances
  | .aurora => auroraLaunchInstances self instances
  | .alloyDB => alloyDBLaunchInstances self instances
  | .ephemeral => ofExcept (ephemeralLaunchInstances self instances)

end Launch

section Terminate

/-- Destroying the first instance's database or service. -/
def destroyFirst (destroy : VirtualMachine → Except Exn Unit) : List Node → Command Unit
  | [] => raise indexError
  | n :: _ => do
      tell (.destroyInstance n.vm)
      ofExcept (destroy n.vm)

/-- `terminate_instances` of a cloud object. -/
def terminateInstancesOf (σ : Schedule Event) (instances : List Node) (terminateStorage : Bool) :
    Command Unit :=
  match self.cloudType with
  | .aws | .gcp => terminateInstances self σ instances terminateStorage
  | .colo =>
      if self.api.colo.pidLocked then raise pidLocked
      else tell (.writeLockFile
        (Colo.unlock self.api.colo.lockFile self.api.colo.sproutsys.clusterName))
  | .skySql | .skySql2 => destroyFirst self.api.destroyService instances
  | .rds => destroyFirst (self.api.destroy .awsRdsCompute) instances
  | .aurora => destroyFirst (self.api.destroy .awsAuroraCompute) instances
  | .alloyDB => destroyFirst (self.api.destroy .gcpAlloyDBCompute) instances
  | .ephemeral => raise ⟨.cloud, "Not implemented"⟩

end Terminate

section StartStop

def noInstanceId : Exn :=
  ⟨.awsEc2, "Instance is not ready. Id must be created first"⟩

/-- `instance_id.startswith("i-")`. -/
def awsManaged (id : String) : Bool :=
  decide (Text.StartsWith id "i-")

/-- Telling the provider to stop a machine; it is stopped when it does not
    refuse. -/
def stopped (vm : VirtualMachine) : Command Unit := do
  ofExcept (self.api.stop vm)
  tell (.stopInstance vm)

/-- `stop_instance`. -/
def stopInstance (n : Node) : Command Unit := do
  let klass ← ofExcept (createCompute self.cli)
  match klass, n.vm.id with
  | .awsEc2, none => raise noInstanceId
  | .awsEc2, some id => if awsManaged id then stopped self n.vm else pure ()
  | .gcpCompute, none => raise ⟨.gcpCloud, "Instance is not ready. Id must be created first"⟩
  | .gcpCompute, some _ => stopped self n.vm
  | _, _ => raise ⟨.attributeError, "'GcpAlloyDBCompute' object has no attribute 'stop'"⟩

/-- `stop_instances` of the generic cloud. -/
def stopInstances (σ : Schedule Event) (instances : List Node) : Command Unit := do
  let _ ← runParallel σ (instances.map (Item.node (ω := Node)))
    (fun call : Call Node Unit =>
      match call with
      | .bare n => stopInstance self n
      | .positional n _ => stopInstance self n
      | .keywords _ => raise ⟨.typeError, "stop_instance() got an unexpected keyword argument"⟩)
    [] Dict.empty
  pure ()

/-- `stop_instances` of a cloud object. The colo cloud and the first SkySQL
    only log a warning. -/
def stopInstancesOf (σ : Schedule Event) (instances : List Node) : Command Unit :=
  match self.cloudType with
  | .colo | .skySql => pure ()
  | .skySql2 =>
      match instances with
      | [] => raise indexError
      | n :: _ => stopped self n.vm
  | _ => stopInstances self σ instances

/-- `AttributeError` of `Node(None)`. -/
def nodeOfNone : Exn :=
  ⟨.attributeError, "'NoneType' object has no attribute 'managed'"⟩

/-- `start_instance`. Only AWS gives a machine back, and only for one it
    manages. -/
def startInstance (n : Node) : Command (Option Node) := do
  let klass ← ofExcept (createCompute self.cli)
  match klass, n.vm.id with
  | .awsEc2, none => raise noInstanceId
  | .awsEc2, some id =>
      if awsManaged id then do
        tell (.startInstance n.vm)
        let ips ← ofExcept (self.api.describe n.vm)
        let node ← ofExcept (Node.ofVm self.api.sshOptions
          { computeFromVm self .awsEc2 n.vm with
            network := some
              { VirtualNetwork.default with publicIp := ips.1, privateIp := ips.2 } })
        pure (some node)
      else raise nodeOfNone
  | .gcpCompute, none => raise ⟨.gcpCloud, "Instance is not ready. Id must be created first"⟩
  | .gcpCompute, some _ => do
      tell (.startInstance n.vm)
      raise nodeOfNone
  | _, _ => raise ⟨.attributeError, "'GcpAlloyDBCompute' object has no attribute 'start'"⟩

/-- `start_instances` of the generic cloud. -/
def startInstances (σ : Schedule Event) (instances : List Node) :
    Command (List (Option Node)) :=
  runParallelReturning σ (instances.map (Item.node (ω := Node)))
    (fun call : Call Node (Packed Unit) =>
      match call with
      | .bare n => startInstance self n
      | _ => raise ⟨.typeError, "start_instance() takes 2 positional arguments"⟩)
    [] Dict.empty

/-- `start_instances` of a cloud object; `none` is Python's `None`. -/
def startInstancesOf (σ : Schedule Event) (instances : List Node) :
    Command (Option (List (Option Node))) :=
  match self.cloudType with
  | .colo | .skySql => pure none
  | .skySql2 =>
      match instances with
      | [] => raise indexError
      | n :: _ => do
          tell (.startInstance n.vm)
          pure none
  | _ => do
      let nodes ← startInstances self σ instances
      pure (some nodes)

end StartStop

section Factory

/-- `CloudFactory.create_cloud`. The constructor makes the command line
    interface of its class and then has its own say. -/
def createCloud (api : CloudType → CloudApi) (t : CloudType) (clusterName : String)
    (regionConfig : Params) : Except Exn AbstractCloud := do
  let cli ← createCli (cloudTypeOf t)
  (api t).construct
  .ok ⟨clusterName, t, regionConfig, cli, api t⟩

/-- `create_cloud_from_str`. -/
def createCloudFromStr (api : CloudType → CloudApi) (cloudStr clusterName : String)
    (regionConfig : Params) : Except Exn AbstractCloud := do
  let t ← CloudType.fromString cloudStr
  createCloud api t clusterName regionConfig

/-- `is_running` of a cloud object. -/
def isRunning : Except Exn Bool :=
  match self.cloudType with
  | .colo => .ok (Colo.isRunning self.api.colo.lockFile self.api.colo.sproutsys.clusterName)
  | .ephemeral => .error ⟨.cloud, "Not implemented"⟩
  | .skySql => self.api.running
  | _ =>
      match self.cli with
      | none => .ok false
      | some _ => self.api.running

/-- `is_persistent`: only the colo hosts are. -/
def isPersistent : Bool :=
  match self.cloudType with
  | .colo => true
  | _ => false

theorem createCloud_ok (api : CloudType → CloudApi) (t : CloudType) (clusterName : String)
    (regionConfig : Params) (cloud : AbstractCloud)
    (h : createCloud api t clusterName regionConfig = .ok cloud) :
    cloud.cloudType = t ∧ createCli (cloudTypeOf t) = .ok cloud.cli := by
  unfold createCloud at h
  rcases except_bind_eq_ok _ _ _ h with ⟨cli, hcli, h⟩
  rcases except_bind_eq_ok _ _ _ h with ⟨_, _, h⟩
  rw [← Except.ok.inj h]
  exact ⟨rfl, hcli⟩

end Factory

end Xbench
