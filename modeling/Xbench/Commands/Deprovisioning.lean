import Xbench.Cloud.Aws.Account
import Xbench.Commands.CloudCommands
import Xbench.Metrics.Server

/-!
# Deprovisioning

A cluster is torn down in one of two ways. `clean` goes over the environments
of the saved cluster and terminates its members and its shared storage.
`nuke` has no saved cluster: it asks one cloud for what has the tag of the
cluster, and terminates that.

A dry run leaves out the terminating. Both say good-bye to the metrics server
before they test for it; `clean` saves the cluster before and removes its file
after, and `nuke` removes the file too when the cloud has no interface to ask.

Of the interfaces only those of AWS and GCP have requests by tag. The others
answer with something that is not a list of identifiers, or with nothing.

## Main definitions

* `TagApi`: The answers to requests by tag.
* `TagApi.describeInstances`: The machines found for a cluster.
* `TagApi.describeVolumes`: The volumes found for a cluster.
* `TagApi.terminateInstances`: Terminating what was found.
* `TagApi.deleteVolumes`: Deleting what was found.
* `DeProvisioning`: A teardown and what it has to do with.
* `DeProvisioning.clean`: Tearing down a saved cluster.
* `DeProvisioning.nuke`: Tearing down by tag.
-/

namespace Xbench

open Effect

/-- The answers to requests by tag: making an interface, what is in the AWS
    account, what GCP and Aurora find, and what comes of each request. -/
structure TagApi where
  construct : Cli → Except Exn Unit
  account : Ec2Account
  answered : Except Exn Unit
  gcpInstances : Except Exn (List (Option String))
  gcpVolumes : Except Exn (List (Option String))
  auroraClusters : Except Exn (List (Option String))
  terminate : Option String → Except Exn Unit
  waitTerminated : Option String → Except Exn Unit
  delete : Option String → Except Exn Unit

namespace TagApi

variable (api : TagApi)

/-- `cli.describe_instances_by_tag()`, by the `id` of each element. -/
def describeInstances (clusterName : String) :
    Cli → Except Exn (Option (List (Option String)))
  | .aws => do
      api.answered
      .ok (some ((api.account.describeInstancesByTag clusterName).map (fun i => some i.id)))
  | .gcp => api.gcpInstances.map some
  | .aurora => api.auroraClusters.map some
  | .alloyDB => .ok (some [])
  | .colo => .ok (some [none])
  | .rds => .ok none

/-- `cli.describe_volumes_by_tag()`. -/
def describeVolumes (clusterName : String) : Cli → Except Exn (Option (List (Option String)))
  | .aws => do
      api.answered
      .ok (some ((api.account.describeVolumesByTag clusterName).map (fun v => some v.id)))
  | .gcp => api.gcpVolumes.map some
  | _ => .ok none

/-- One request after the other. -/
def requestEach (event : Option String → Event) (outcome : Option String → Except Exn Unit) :
    List (Option String) → Command Unit
  | [] => pure ()
  | id :: rest => do
      tell (event id)
      ofExcept (outcome id)
      requestEach event outcome rest

/-- `cli.terminate_instances(instances)`. -/
def terminateInstances (ids : List (Option String)) : Cli → Command Unit
  | .aws | .gcp => requestEach .terminateById api.terminate ids
  | _ => pure ()

/-- Waiting for each of them; only AWS does. -/
def waitForInstances (ids : List (Option String)) : Cli → Except Exn Unit
  | .aws => ids.forM api.waitTerminated
  | _ => .ok ()

/-- `cli.delete_volumes(volumes)`. -/
def deleteVolumes (ids : List (Option String)) : Cli → Command Unit
  | .aws | .gcp => requestEach .deleteVolumeById api.delete ids
  | _ => pure ()

end TagApi

/-- `config.get(region)`, of which attributes are asked. -/
def regionGet (config : Params) (region : String) : Except Exn Params :=
  match config.get? region with
  | some (.dict entries) => .ok (Dict.ofList entries)
  | some _ => .error ⟨.attributeError, "object has no attribute 'get'"⟩
  | none => .error ⟨.attributeError, "'NoneType' object has no attribute 'get'"⟩

/-- A teardown. -/
structure DeProvisioning extends Installation where
  dryRun : Bool
  metrics : MetricsApi
  tags : TagApi
  archive : Except Exn Unit

section Teardown

variable (self : DeProvisioning)

def noLength : Exn :=
  ⟨.typeError, "object of type 'NoneType' has no len()"⟩

/-- The groups of an environment, cleaned on the pool. -/
def DeProvisioning.cleanGroups (σ : Schedule Event) (c : Cluster) (env : Environment) :
    Command Unit := do
  let groups ← ofExcept (c.groupNodesByName self.klasses)
  let mine := groups.values.filter (fun g => g.env == env.name || env.name == "*")
  let _ ← parallel σ (mine.map (fun g => ofExcept (self.cleanKlass g)))
  pure ()

/-- The members that `clean` terminates in an environment. -/
def provisionedIn (c : Cluster) (env : Environment) : List Node :=
  c.members.values.filter (fun n => n.vm.env == env.name && n.vm.provisioned)

/-- `clean` in one environment. -/
def DeProvisioning.cleanEnv (c : Cluster) (env : Environment) : Command Unit := do
  let config ← ofExcept (self.loadCloud env.cloud)
  let regionConfig ← ofExcept (regionGet config env.region)
  let ms ← ofExcept (initializeServer self.metrics regionConfig)
  let cloud ← ofExcept
    (createCloudFromStr (self.outside.clouds env) env.cloud self.clusterName regionConfig)
  ms.deregisterCluster self.metrics c.clusterName
  if isPersistent cloud && !self.dryRun then self.cleanGroups (self.outside.schedule env) c env
  if self.dryRun then pure ()
  else do
    if !(provisionedIn c env).isEmpty then
      terminateInstancesOf cloud (self.outside.schedule env) (provisionedIn c env) true
    let _ ← terminateStorageInstances cloud c.sharedStorage
    pure ()

/-- The loop of `clean`. -/
def DeProvisioning.cleanEnvs (c : Cluster) : List Environment → Command Unit
  | [] => pure ()
  | env :: rest => do
      self.cleanEnv c env
      DeProvisioning.cleanEnvs c rest

/-- `clean`. -/
def DeProvisioning.clean (c : Cluster) : Command Unit := do
  tell (.saveCluster c)
  ofExcept self.archive
  self.cleanEnvs c c.envs
  tell (.removeClusterYaml self.clusterName)

/-- What `nuke` does to what it found. -/
def DeProvisioning.nukeFound (cli : Cli) (allInstances allVolumes : Option (List (Option String))) :
    Command Unit := do
  let instances ← ofExcept (allInstances.elim (.error noLength) .ok)
  if !instances.isEmpty then do
    self.tags.terminateInstances instances cli
    ofExcept (self.tags.waitForInstances instances cli)
  let volumes ← ofExcept (allVolumes.elim (.error noLength) .ok)
  if !volumes.isEmpty then self.tags.deleteVolumes volumes cli
  tell (.removeClusterYaml self.clusterName)

/-- `nuke` of what a cloud has under the tag of the cluster. -/
def DeProvisioning.nuke (cloud cloudRegion : String) : Command Unit := do
  let config ← ofExcept (self.loadCloud cloud)
  let regionConfig ← ofExcept (regionGet config cloudRegion)
  let ms ← ofExcept (initializeServer self.metrics regionConfig)
  ms.deregisterCluster self.metrics self.clusterName
  let cli ← ofExcept ((CloudType.fromString cloud).bind createCli)
  match cli with
  | none => tell (.removeClusterYaml self.clusterName)
  | some cli => do
      ofExcept (self.tags.construct cli)
      let allInstances ← ofExcept (self.tags.describeInstances self.clusterName cli)
      let allVolumes ← ofExcept (self.tags.describeVolumes self.clusterName cli)
      if self.dryRun then pure ()
      else self.nukeFound cli allInstances allVolumes

end Teardown

end Xbench
