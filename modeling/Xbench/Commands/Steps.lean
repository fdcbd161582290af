import Xbench.Commands.Lifecycle
import Xbench.Commands.Deprovisioning

/-!
# What a Step Changes

The instances and the volumes in the clouds, the cluster files, and the
targets on the metrics servers, and what the steps of provisioning and
deprovisioning do to them.

A target is its file on the server. The file of an exporter is named after the
cluster, the node and the service, and registering an exporter again writes
the same file. Drivers take their target off when they are cleaned; no other
class does.

Every step can be constructed for a dry run. The steps of provisioning take
the flag and never look at it. Nothing is lost here by leaving out the `except`
clauses around them, which raise in any case.

## Main definitions

* `Change`: What a step does that outlives it, exporters included.
* `Inventory`: What there is in the clouds, the files and the servers.
* `Inventory.after`: What some changes make of it.
* `Instrumenting`: The steps that install, with what gets through to a server.
* `Instrumenting.cleanEnvs`: Uninstalling, with the targets that are taken off.
* `Operation`: The steps.
* `Operation.run`: A step, constructed for a dry run.
-/

namespace Xbench

open Effect

open Cluster (Klass GroupNodes Group groupNodesByName)

/-- What a step does that outlives it. -/
inductive Change where
  | event (e : Event)
  | register (t : Target)
  | deregister (t : Target)

/-- What there is in the clouds, in the directory of cluster files and on the
    metrics servers. -/
structure Inventory where
  machines : List (String × Option String)
  volumes : List String
  dir : ClustersDir
  targets : List Target

namespace Inventory

/-- What an event makes of it. -/
def happen (s : Inventory) : Event → Inventory
  | .createInstance env id => { s with machines := s.machines ++ [(env, id)] }
  | .destroyInstance vm =>
      { s with machines := s.machines.filter (fun m => decide (m ≠ (vm.env, vm.id))) }
  | .terminateById id => { s with machines := s.machines.filter (fun m => decide (m.2 ≠ id)) }
  | .createVolume id => { s with volumes := s.volumes ++ [id] }
  | .destroyVolume _ v => { s with volumes := s.volumes.filter (fun id => decide (id ≠ v.id)) }
  | .deleteVolumeById id => { s with volumes := s.volumes.filter (fun v => decide (some v ≠ id)) }
  | .saveCluster c => { s with dir := s.dir.save c }
  | .removeClusterYaml name => { s with dir := s.dir.remove name }
  | .deregisterCluster server dir name =>
      { s with targets := s.targets.filter (fun t => !t.matches server dir name) }
  | _ => s

/-- What a change makes of it; a file that is there is written again. -/
def apply (s : Inventory) : Change → Inventory
  | .event e => s.happen e
  | .register t => if t ∈ s.targets then s else { s with targets := s.targets ++ [t] }
  | .deregister t => { s with targets := s.targets.filter (fun t' => decide (t' ≠ t)) }

def after (s : Inventory) (trace : List Change) : Inventory :=
  trace.foldl apply s

end Inventory

/-- `os.path.basename`. -/
def basename (path : String) : String :=
  ((Text.split '/' path).getLast?).getD ""

/-- `target_name`. -/
def targetName (n : Node) (exporter : Exporter) : String :=
  n.vm.clusterName ++ "-" ++ n.vm.name ++ "-" ++ exporter.service ++ "-exporter.json"

/-- The steps that install, with what gets through to a metrics server, and
    what comes of cleaning a component, before and after its exporter. -/
structure Instrumenting extends Exporting where
  written : MetricsServer → Node → Exporter → Bool
  sent_written : ∀ ms n exporter, sent ms n exporter = .ok () → written ms n exporter = true
  beforeClean : Group → Except Exn Unit
  afterClean : Group → Except Exn Unit
  cleanSchedule : Environment → Schedule Change

namespace Instrumenting

variable (self : Instrumenting)

/-- The target that a registration writes. -/
def targetOf (r : Registration) : Option Target :=
  match r.server.sshClient with
  | none => none
  | some host =>
      if self.written r.server r.node r.exporter then
        some ⟨host, r.server.remoteTargetPath, basename (targetName r.node r.exporter)⟩
      else none

/-- The registrations as changes. -/
def registering {α : Type} (x : Registering α) : Effect Change Exn α :=
  x.relabel (fun r => (self.targetOf r).map Change.register)

/-- The target of an exporter on a server, to be taken off. -/
def exporterTarget (host : String) (ms : MetricsServer) (n : Node) (exporter : Exporter) :
    Target :=
  ⟨host, ms.remoteTargetPath, targetName n exporter⟩

/-- What came of taking a target off. -/
def removal (host : String) (ms : MetricsServer) (n : Node) (exporter : Exporter) : SshRun :=
  self.metrics.run host ("rm " ++ ms.remoteTargetPath ++ "/" ++ targetName n exporter)

/-- `deregister_metric_target`. -/
def deregisterMetricTarget (ms : MetricsServer) (n : Node) (exporter : Exporter) :
    Effect Change Exn Unit :=
  match ms.sshClient with
  | none => pure ()
  | some host =>
      if (self.removal host ms n exporter).ran then do
        tell (.deregister (exporterTarget host ms n exporter))
        ofExcept (self.removal host ms n exporter).outcome
      else ofExcept (self.removal host ms n exporter).outcome

/-- The exporter that a component takes off: that of a driver. -/
def cleanedExporter (g : Group) : Option (Node × Exporter) :=
  match self.classOf g.klass with
  | .driver => g.nodes.head?.map (fun n => (n, ⟨"workload_exporter", 9300⟩))
  | _ => none

/-- Taking it off. -/
def dropExporter (ms : MetricsServer) : Option (Node × Exporter) → Effect Change Exn Unit
  | none => pure ()
  | some (n, exporter) => self.deregisterMetricTarget ms n exporter

/-- `klass_instance_clean`. -/
def cleanInstance (ms : MetricsServer) (g : Group) : Effect Change Exn Unit := do
  ofExcept (self.beforeClean g)
  self.dropExporter ms (self.cleanedExporter g)
  ofExcept (self.afterClean g)

/-- The loop of `clean`. -/
def cleanEnvs (c : Cluster) : List EnvironmentComponents → Effect Change Exn Unit
  | [] => pure ()
  | env :: rest => do
      let ms ← ofExcept (initializeServer self.metrics env.regionConfig)
      let groups ← ofExcept (groupNodesByName self.klasses c)
      let _ ← parallel (self.cleanSchedule env.env)
        ((groups.values.filter (fun g => g.env == env.env.name)).map (self.cleanInstance ms))
      tell (.event (.saveCluster (Uninstaller.cleaned c)))
      cleanEnvs (Uninstaller.cleaned c) rest

/-- What `install` saves for a target. -/
def installedWith (c : Cluster) (bt : Option BackendTarget) : Cluster :=
  { c with bt := bt.getD noTarget, state := .ready }

end Instrumenting

/-- The steps of deprovisioning and of provisioning, with their outside: the
    answers of `opens` are those of building the members of a cluster. -/
inductive Operation where
  | clean (self : DeProvisioning) (opens : Cluster → Except Exn Unit)
  | nuke (self : DeProvisioning) (cloud cloudRegion : String)
  | configure (self : Provisioning) (out : Outside) (loadTopo : Except Exn Value)
  | allocate (self : Provisioning) (out : Outside) (opens : Cluster → Except Exn Unit)
  | selfTest (clusterName : String) (opens : Cluster → Except Exn Unit)
      (answers : Node → Except Exn Unit)
  | make (self : Instrumenting) (opens : Cluster → Except Exn Unit) (ms : Option MetricsServer)
  | install (self : Instrumenting) (opens : Cluster → Except Exn Unit) (ms : Option MetricsServer)
  | uninstall (self : Instrumenting) (opens : Cluster → Except Exn Unit)

namespace Operation

/-- The events of a command as changes. -/
def happening {α : Type} (x : Command α) : Effect Change Exn α :=
  x.relabel (fun e => some (.event e))

/-- A step, constructed for a dry run. -/
def run (s : Inventory) : Operation → Effect Change Exn Unit
  | .clean self opens => do
      let c ← ofExcept (loadCluster opens s.dir self.clusterName)
      happening ({ self with dryRun := true }.clean c)
  | .nuke self cloud cloudRegion => happening ({ self with dryRun := true }.nuke cloud cloudRegion)
  | .configure self out loadTopo => do
      let _ ← happening (self.configure out loadTopo)
      pure ()
  | .allocate self out opens => do
      let _ ← happening (self.allocate out opens s.dir)
      pure ()
  | .selfTest clusterName opens answers => do
      let c ← ofExcept (loadCluster opens s.dir clusterName)
      ofExcept ((c.members.values.filter (fun n => n.vm.managed)).forM answers)
  | .make self opens ms => do
      let c ← ofExcept (loadCluster opens s.dir self.clusterName)
      let _ ← self.registering (self.make c ms)
      pure ()
  | .install self opens ms => do
      let c ← ofExcept (loadCluster opens s.dir self.clusterName)
      let bt ← self.registering (self.installed c ms)
      tell (.event (.saveCluster (Instrumenting.installedWith c bt)))
  | .uninstall self opens => do
      let c ← ofExcept (loadCluster opens s.dir self.clusterName)
      self.cleanEnvs c self.envs

end Operation

end Xbench
