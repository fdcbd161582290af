import Xbench.Lib.Effect
import Xbench.Compute.Cluster

/-!
# Events

What a command does that outlives it: requests that change a cloud account,
the cluster file, and the targets of a metrics server. A command is an
`Effect` over these events, so what it did before an exception is still there
to be asked about.

Destroying is recorded when the compute or storage object is told to, and a
volume is recorded with the machine it was attached to, since the identifiers
of local disks repeat from machine to machine. `detachStorage` is no change at
all: it is the call, kept because a property of this code is about the
argument the call receives.

## Main definitions

* `Event`: What a command does that outlives it.
* `Command`: A computation that does these things.
* `createdInstances`: The instances that came into being.
* `destroyedInstances`: The machines that were told to go.
* `destroyedVolumes`: The volumes that were told to go.

## Theorems

* `created_append`: What was created in two parts.
-/

namespace Xbench

/-- What a command does that outlives it. -/
inductive Event where
  | createInstance (env : String) (id : Option String)
  | destroyInstance (vm : VirtualMachine)
  | stopInstance (vm : VirtualMachine)
  | startInstance (vm : VirtualMachine)
  | createVolume (id : String)
  | destroyVolume (vm : Option VirtualMachine) (s : VirtualStorage)
  | detachStorage (vm : VirtualMachine) (s : VirtualStorage) (terminateStorage : Bool)
  | writeLockFile (file : String)
  | terminateById (id : Option String)
  | deleteVolumeById (id : Option String)
  | saveCluster (c : Cluster)
  | removeClusterYaml (clusterName : String)
  | deregisterCluster (server : String) (dir : String) (clusterName : String)
  | configureComponent (klass : Cluster.Klass) (nodes : Cluster.GroupNodes)
  | installComponent (klass : Cluster.Klass) (nodes : Cluster.GroupNodes)
  | postInstall (klass : Cluster.Klass) (nodes : Cluster.GroupNodes) (bt : BackendTarget)

/-- A computation that does these things. -/
abbrev Command (α : Type) := Effect Event Exn α

def Event.created? : Event → Option (String × Option String)
  | .createInstance env id => some (env, id)
  | _ => none

def Event.destroyedInstance? : Event → Option VirtualMachine
  | .destroyInstance vm => some vm
  | _ => none

def Event.destroyedVolume? : Event → Option (VirtualMachine × VirtualStorage)
  | .destroyVolume (some vm) s => some (vm, s)
  | _ => none

/-- The instances that came into being, with their environments. -/
def createdInstances (trace : List Event) : List (String × Option String) :=
  trace.filterMap Event.created?

/-- The machines that were told to go. -/
def destroyedInstances (trace : List Event) : List VirtualMachine :=
  trace.filterMap Event.destroyedInstance?

/-- The volumes that were told to go, with the machines they belong to. -/
def destroyedVolumes (trace : List Event) : List (VirtualMachine × VirtualStorage) :=
  trace.filterMap Event.destroyedVolume?

theorem created_append (t t' : List Event) :
    createdInstances (t ++ t') = createdInstances t ++ createdInstances t' :=
  List.filterMap_append

end Xbench
