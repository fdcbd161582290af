import Xbench.Cloud.Termination
import Xbench.Commands.Provisioning

/-!
# Stopping and Starting a Cluster

`start_stop_cluster` goes over the environments of a saved cluster and stops
or starts the members of each in its cloud. Members with ephemeral storage are
left alone, since they would lose it.

The state of the cluster is both the guard and the record. It is tested for
every environment and it changes inside the loop: stopping changes it in the
first environment with something to stop, starting in the first environment of
all. The environment after that one finds the state changed.

Stopping saves before the cloud is asked, starting afterwards. Starting again
gives nodes, which take the place of the members of their names; not every
cloud gives any.

## Main definitions

* `Installation`: The configuration and the outside of a command.
* `devInstallation`: One region of AWS.
* `regionOf`: The configuration of a region.
* `eligible`: A member that may be stopped.
* `instancesIn`: The members of an environment that may be stopped.
* `backendsDo`: Doing something to each backend.
* `rejoin`: Taking the nodes that were started.
* `startEnv`: Starting one environment.
* `stopEnv`: Stopping one environment.
* `startStopCluster`: The loop.
-/

namespace Xbench

open Effect

/-- What a command on a saved cluster has to do with: the clouds of the
    configuration, the answers of the outside, the classes of the nodes, and
    what becomes of a class made with its nodes. -/
structure Installation where
  clusterName : String
  loadCloud : String → Except Exn Params
  outside : Outside
  klasses : String → Except Exn Cluster.Klass
  makeKlass : Cluster.Group → Except Exn Unit
  startKlass : Cluster.Group → Except Exn Unit
  stopKlass : Cluster.Group → Except Exn Unit
  cleanKlass : Cluster.Group → Except Exn Unit

/-- `cloud_config[env.region]`, spread into keyword arguments. -/
def regionOf (config : Params) (region : String) : Except Exn Params :=
  match config.get? region with
  | some (.dict entries) => .ok (Dict.ofList entries)
  | some _ => .error ⟨.typeError, "argument after ** must be a mapping"⟩
  | none => .error ⟨.keyError, region⟩

/-- No storage, or storage that a stop leaves as it is. -/
def eligible (n : Node) : Bool :=
  match n.vm.storage with
  | some s => s.type != some "ephemeral"
  | none => true

/-- The members of an environment that may be stopped. -/
def instancesIn (c : Cluster) (env : Environment) : List Node :=
  c.members.values.filter (fun n => eligible n && n.vm.env == env.name)

section Commands

variable (self : Installation)

/-- The cloud object of an environment. -/
def Installation.cloudOf (env : Environment) : Except Exn AbstractCloud := do
  let config ← self.loadCloud env.cloud
  let regionConfig ← regionOf config env.region
  createCloudFromStr (self.outside.clouds env) env.cloud self.clusterName regionConfig

/-- Making an object of each backend class and doing something to it. -/
def backendsDo (act : Cluster.Group → Except Exn Unit) : List Cluster.Group → Except Exn Unit
  | [] => .ok ()
  | g :: rest =>
      if g.klass.isBackend then do
        self.makeKlass g
        act g
        backendsDo act rest
      else backendsDo act rest

/-- The same for the groups of a cluster. -/
def Installation.backends (act : Cluster.Group → Except Exn Unit) (c : Cluster) :
    Except Exn Unit := do
  let groups ← c.groupNodesByName self.klasses
  backendsDo self act groups.values

/-- `for instance in new_instances: if instance: add_member`. -/
def rejoin (c : Cluster) : List (Option Node) → Cluster
  | [] => c
  | none :: rest => rejoin c rest
  | some n :: rest => rejoin (c.addMember n.vm.name n) rest

def alreadyRunning : Exn :=
  ⟨.xbench, "Cluster already running"⟩

def notReady : Exn :=
  ⟨.xbench, "Cluster is not ready (already shutdown or has not been initialized)"⟩

def notIterable : Exn :=
  ⟨.typeError, "'NoneType' object is not iterable"⟩

/-- `on_off == "start"` in one environment. -/
def Installation.startEnv (cloud : AbstractCloud) (env : Environment) (c : Cluster) :
    Command Cluster :=
  if c.state ≠ .down then raise alreadyRunning
  else do
    let started ← startInstancesOf cloud (self.outside.schedule env) (instancesIn c env)
    let newInstances ← ofExcept (started.elim (.error notIterable) .ok)
    let c := { rejoin c newInstances with state := .ready }
    tell (.saveCluster c)
    ofExcept (self.backends self.startKlass c)
    pure c

/-- `on_off == "stop"` in one environment. -/
def Installation.stopEnv (cloud : AbstractCloud) (env : Environment) (c : Cluster) :
    Command Cluster :=
  if c.state ≠ .ready then raise notReady
  else if (instancesIn c env).isEmpty then pure c
  else do
    ofExcept (self.backends self.stopKlass c)
    let down := { c with state := .down }
    tell (.saveCluster down)
    stopInstancesOf cloud (self.outside.schedule env) (instancesIn c env)
    pure down

/-- One environment; any other word does nothing. -/
def Installation.startStopEnv (onOff : String) (env : Environment) (c : Cluster) :
    Command Cluster := do
  let cloud ← ofExcept (self.cloudOf env)
  if onOff = "start" then self.startEnv cloud env c
  else if onOff = "stop" then self.stopEnv cloud env c
  else pure c

/-- `start_stop_cluster`, with the cluster it has in hand at the end. -/
def Installation.startStopCluster (onOff : String) : List Environment → Cluster →
    Command Cluster
  | [], c => pure c
  | env :: rest, c => do
      let c ← self.startStopEnv onOff env c
      Installation.startStopCluster onOff rest c

end Commands

/-- An installation with one region of AWS, whose classes do what they are
    asked. -/
def devInstallation : Installation where
  clusterName := "dev"
  loadCloud := fun _ => .ok (Dict.ofList [("us-west-2", .dict [])])
  outside := ⟨fun _ _ => obedientApi, fun _ => Schedule.sequential Event⟩
  klasses := fun klass => .ok ⟨klass, false, false⟩
  makeKlass := fun _ => .ok ()
  startKlass := fun _ => .ok ()
  stopKlass := fun _ => .ok ()
  cleanKlass := fun _ => .ok ()

end Xbench
