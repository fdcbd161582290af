import Xbench.Commands.Lifecycle
import Xbench.Commands.Deprovisioning

/-!
# The Command Line

The commands of `xb` that write cluster files, each with the cluster files it
finds.

`provision` has one object for all its steps, and takes one step or five in a
row. It does not configure a cluster that has a file already, unless it is
forced to. `deprovision` goes by the saved cluster, unless it is forced to and
has a cloud to ask: then it goes by the tags. `run` is `provision` with all its
steps, the workload, `deprovision` and the report, with one flag that forces
both ends. `stop` and `start` go by the saved cluster.

Nothing is carried from one command to the next but the files. An exception
ends the command, and its status is 1.

## Main definitions

* `inTurn`: Commands in a row, each with the files that those before it left.
* `ProvisionStep`: The choices of `--step`.
* `Provisioner`: The object of `provision`.
* `provision`: Provisioning.
* `deprovision`: Deprovisioning.
* `Invocation`: The commands.
* `Invocation.command`: What a command does.
* `Site`: The cluster files, and all that was done.
* `Site.start`: The site where nothing has been done.
* `invoke`, `invokeAll`: A command on a site, and several.

## Theorems

* `inTurn_cons`: The first command, and the others.
-/

namespace Xbench

open Effect

namespace Main

/-- Commands in a row, each with the files that those before it left. -/
def inTurn : List (ClustersDir → Command Unit) → ClustersDir → Command Unit
  | [], _ => pure ()
  | x :: rest, dir => do
      x dir
      inTurn rest (dir.after (x dir).trace)

/-- The choices of `--step`. -/
inductive ProvisionStep where
  | configure
  | allocate
  | make
  | test
  | install
  | clean
  | all
deriving DecidableEq

/-- `Provisioning(..)`, with what comes of building it, of the topology file,
    of loading a cluster and of the self test of a node. -/
structure Provisioner extends Exporting, Uninstaller where
  topo : String
  built : Except Exn Unit
  out : Outside
  loadTopo : Except Exn Value
  opens : Cluster → Except Exn Unit
  installSchedule : Schedule Event
  answers : Node → Except Exn Unit

namespace Provisioner

variable (self : Provisioner)

/-- The part of it that configures and allocates. -/
def provisioning : Provisioning :=
  ⟨self.clusterName, self.topo, self.envs⟩

def configure (_ : ClustersDir) : Command Unit := do
  let _ ← self.provisioning.configure self.out self.loadTopo
  pure ()

def allocate (dir : ClustersDir) : Command Unit := do
  let _ ← self.provisioning.allocate self.out self.opens dir
  pure ()

/-- `make`; what it registers is on the metrics servers and in no cluster
    file. -/
def make (dir : ClustersDir) : Command Unit :=
  asXbench (do
    let c ← ofExcept (loadCluster self.opens dir self.clusterName)
    let _ ← ofExcept (self.toExporting.make c none).result
    pure ())

/-- `self_test`. -/
def selfTest (dir : ClustersDir) : Command Unit :=
  attempt (do
    let c ← ofExcept (loadCluster self.opens dir self.clusterName)
    ofExcept ((c.members.values.filter (fun n => n.vm.managed)).forM self.answers))
    (fun e =>
      if e.isA .node || e.isA .shellSSHClient then raise ⟨.xbench, e.message⟩ else raise e)

def install (dir : ClustersDir) : Command Unit :=
  self.toInstaller.install self.opens dir self.installSchedule

def clean (dir : ClustersDir) : Command Unit :=
  self.toUninstaller.clean self.opens dir

/-- A step, or five of them. -/
def step : ProvisionStep → ClustersDir → Command Unit
  | .configure => self.configure
  | .allocate => self.allocate
  | .make => self.make
  | .test => self.selfTest
  | .install => self.install
  | .clean => self.clean
  | .all => inTurn [self.configure, self.allocate, self.selfTest, self.make, self.install]

end Provisioner

def notRfc1035 (clusterName : String) : Exn :=
  ⟨.xbench, "Cluster name " ++ clusterName
    ++ " must follow rfc1035: https://tools.ietf.org/html/rfc1035"⟩

def alreadyExists (clusterName : String) : Exn :=
  ⟨.xbench, "Cluster file " ++ clusterName
    ++ ".yaml already exists. Use --force to override"⟩

/-- Does the step make a new cluster? -/
def ProvisionStep.startsAnew (step : ProvisionStep) : Bool :=
  step == .all || step == .configure

/-- `provision(args, extra_impl_params)`. -/
def provision (self : Provisioner) (step : ProvisionStep) (force : Bool) (dir : ClustersDir) :
    Command Unit :=
  if !validateNameRfc1035 self.clusterName then raise (notRfc1035 self.clusterName)
  else do
    ofExcept self.built
    if (dir.file self.clusterName).isSome && step.startsAnew && !force then
      raise (alreadyExists self.clusterName)
    else self.step step dir

/-- The arguments of `deprovision`. -/
structure DeprovisionArgs where
  force : Bool
  cloud : Option String
  region : Option String

/-- `deprovision(args, extra_impl_params)`; loading the cluster is part of
    making the object. -/
def deprovision (self : DeProvisioning) (args : DeprovisionArgs)
    (opens : Cluster → Except Exn Unit) (dir : ClustersDir) : Command Unit :=
  match args.force, args.cloud with
  | true, some cloud =>
      match args.region with
      | some region => self.nuke cloud region
      | none => do
          let _ ← ofExcept (self.loadCloud cloud)
          raise ⟨.attributeError, "'NoneType' object has no attribute 'get'"⟩
  | _, _ => do
      let c ← ofExcept (loadCluster opens dir self.clusterName)
      self.clean c

/-- `if args.force and not (args.cloud and args.region)`: an empty text is no
    cloud and no region. -/
def DeprovisionArgs.accepted (args : DeprovisionArgs) : Bool :=
  !args.force || (args.cloud.any (· ≠ "") && args.region.any (· ≠ ""))

def nukeArguments : Exn :=
  ⟨.other, "Nuke mode (-f) requires --cloud and --region arguments!"⟩

/-- The objects of `run`, all of one cluster, and what comes of the workload
    and of the report, which write no cluster file. -/
structure EndToEnd where
  provisioner : Provisioner
  workload : ClustersDir → Except Exn Unit
  deprovisioning : DeProvisioning
  args : DeprovisionArgs
  reporting : Except Exn Unit
  same : deprovisioning.clusterName = provisioner.clusterName

/-- `run`. -/
def EndToEnd.run (self : EndToEnd) : ClustersDir → Command Unit :=
  inTurn [provision self.provisioner .all self.args.force,
    fun dir => ofExcept (self.workload dir),
    deprovision self.deprovisioning self.args self.provisioner.opens,
    fun _ => ofExcept self.reporting]

/-- The commands. Those that write no cluster file are `workload`, `report`,
    `security`, `ls`, `ssh`, `sql`, `send` and `recv`. -/
inductive Invocation where
  | provision (self : Provisioner) (step : ProvisionStep) (force : Bool)
  | deprovision (self : DeProvisioning) (args : DeprovisionArgs)
      (opens : Cluster → Except Exn Unit)
  | run (self : EndToEnd)
  | stop (self : Installation) (opens : Cluster → Except Exn Unit)
  | start (self : Installation) (opens : Cluster → Except Exn Unit)
  | other (clusterName : String) (outcome : ClustersDir → Except Exn Unit)

namespace Invocation

def clusterName : Invocation → String
  | .provision self _ _ => self.clusterName
  | .deprovision self _ _ => self.clusterName
  | .run self => self.provisioner.clusterName
  | .stop self _ => self.clusterName
  | .start self _ => self.clusterName
  | .other clusterName _ => clusterName

/-- `stop_command` and `start_command`. -/
def startStop (self : Installation) (onOff : String) (opens : Cluster → Except Exn Unit)
    (dir : ClustersDir) : Command Unit := do
  let _ ← Lifecycle.cloudCommand self onOff opens dir
  pure ()

/-- What a command does, in `main`. -/
def command : Invocation → ClustersDir → Command Unit
  | .provision self step force => Main.provision self step force
  | .deprovision self args opens =>
      if args.accepted then Main.deprovision self args opens else fun _ => raise nukeArguments
  | .run self => self.run
  | .stop self opens => startStop self "stop" opens
  | .start self opens => startStop self "start" opens
  | .other _ outcome => fun dir => ofExcept (outcome dir)

/-- The status a command exits with. -/
def status (i : Invocation) (dir : ClustersDir) : Nat :=
  match (i.command dir).result with
  | .ok _ => 0
  | .error _ => 1

end Invocation

/-- The cluster files, and all that was done since the beginning. -/
structure Site where
  dir : ClustersDir
  log : List Event

/-- A command on a site. -/
def invoke (s : Site) (i : Invocation) : Site :=
  ⟨s.dir.after (i.command s.dir).trace, s.log ++ (i.command s.dir).trace⟩

/-- Where nothing has been done yet. -/
def Site.start : Site :=
  ⟨emptyDir, []⟩

/-- The same files, with nothing done since. -/
def Site.since (s : Site) : Site :=
  { s with log := [] }

/-- Commands one after the other, whatever their status. -/
def invokeAll (s : Site) (history : List Invocation) : Site :=
  history.foldl invoke s

/-- The first command, and the others. -/
theorem inTurn_cons (x : ClustersDir → Command Unit) (rest : List (ClustersDir → Command Unit))
    (dir : ClustersDir) :
    inTurn (x :: rest) dir = (x dir >>= fun _ => inTurn rest (dir.after (x dir).trace)) := rfl

end Main

end Xbench
