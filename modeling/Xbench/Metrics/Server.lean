import Xbench.Config.Value
import Xbench.Events

/-!
# The Metrics Server

A metrics server scrapes the targets it finds as files in a directory. A
cluster is taken off by removing the files whose names start with its name,
over ssh, on the server that the configuration of a region names; a region may
name none.

## Main definitions

* `SshRun`: What came of a command on the server.
* `MetricsApi`: The answers of the servers.
* `MetricsServer`: The server in use.
* `initializeServer`: Taking the server of a region into use.
* `MetricsServer.deregisterCluster`: Taking a cluster off.
* `Target`: A file of a metrics server.
* `Target.matches`: Is the file among those of a cluster?
-/

namespace Xbench

open Effect

/-- What came of a command: did it run, and what the client says. -/
structure SshRun where
  ran : Bool
  outcome : Except Exn Unit
  returned : outcome = .ok () → ran = true

/-- The answers of the servers: making a client, and running a command on a
    host. -/
structure MetricsApi where
  sshClient : Params → Except Exn Unit
  run : String → String → SshRun

/-- The server in use; there is none without a host. -/
structure MetricsServer where
  remoteTargetPath : String
  sshClient : Option String

/-- `initialize(**region_config.get("metric_server", {}))`. -/
def initializeServer (api : MetricsApi) (regionConfig : Params) :
    Except Exn MetricsServer :=
  match regionConfig.get? "metric_server" with
  | none => .ok ⟨Value.none.text, none⟩
  | some (.dict entries) =>
      let kwargs := Dict.ofList entries
      let dir := (kwargs.read "remote_target_path").text
      if (kwargs.read "hostname").truthy then do
        api.sshClient kwargs
        .ok ⟨dir, some (kwargs.read "hostname").text⟩
      else .ok ⟨dir, none⟩
  | some _ => .error ⟨.typeError, "argument after ** must be a mapping"⟩

/-- `deregister_cluster`. -/
def MetricsServer.deregisterCluster (api : MetricsApi) (ms : MetricsServer)
    (clusterName : String) : Command Unit :=
  match ms.sshClient with
  | none => pure ()
  | some host =>
      let done := api.run host ("rm " ++ ms.remoteTargetPath ++ "/" ++ clusterName ++ "*.json")
      if done.ran then do
        tell (.deregisterCluster host ms.remoteTargetPath clusterName)
        ofExcept done.outcome
      else ofExcept done.outcome

/-- A file of a metrics server. -/
structure Target where
  server : String
  dir : String
  file : String
deriving DecidableEq

/-- `{dir}/{cluster_name}*.json`. -/
def Target.matches (t : Target) (server dir clusterName : String) : Bool :=
  t.server == server && t.dir == dir
    && decide (clusterName.toList <+: t.file.toList)
    && decide (".json".toList <:+ t.file.toList.drop clusterName.length)

end Xbench
