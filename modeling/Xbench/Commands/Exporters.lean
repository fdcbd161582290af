import Xbench.Commands.Environments
import Xbench.Commands.Install

/-!
# Exporters and Metrics Servers

Which metrics server the exporters of a cluster are registered on.

There is one metrics server object in a process. `make` and `install` take the
server of a region into use in each turn of their loops over the environments,
and whatever registers an exporter finds the server that is in use then.

Nodes register in `make`, in the turn of their environment. Of the classes one
registers when it is configured, on its first node, and that is in the turn of
the environment of that node. The others register when they are installed,
which is after the loop: all of them find the server of the last environment.

## Main definitions

* `Exporter`: The service and the port of an exporter.
* `Registration`: A registration, with the server that is in use.
* `ExporterClass`: The classes that register exporters.
* `Exporting`: The commands with what they register.
* `Exporting.make`: The basic preparation of the nodes.
* `Exporting.installed`: Installing the components.
* `Exporting.placeOf`: The server of an environment.
* `Exporting.lastPlace`: The server of the last environment.
* `Exporting.WellRegistered`: Exporters are on the servers of their environments.

## Theorems

* `envNames_nodup`: The environments have names of their own.
* `makeEnvs_registers`, `makeEnvs_all`: What `make` registers, and where.
* `configureEnvs_registers`, `configureEnvs_all`: The same of the first phase of
  `install`.
* `installed_trace`: What `install` registers when it is over.
* `registered_iff`: When exporters go to the servers of their environments.
-/

namespace Xbench

open Effect

open Cluster (Klass GroupNodes Group groupNodesByName)

/-- The service and the port of an exporter. -/
structure Exporter where
  service : String
  port : Int
deriving DecidableEq

/-- A registration: the server that is in use, the node, and the exporter. -/
structure Registration where
  server : MetricsServer
  node : Node
  exporter : Exporter

/-- Where a server keeps the files of its targets; nowhere without a host. -/
def MetricsServer.place (ms : MetricsServer) : Option (String × String) :=
  ms.sshClient.map (fun host => (host, ms.remoteTargetPath))

/-- What the configuration of a class says of its exporter. -/
structure ExporterConfig where
  enablePrometheusExporter : Bool
  prometheusPort : Int

/-- The classes that register exporters. -/
inductive ExporterClass where
  | driver
  | xpand
  | mariadb
  | mysql
  | postgresql
  | other

namespace ExporterClass

/-- The exporter that `configure` registers. -/
def onConfigure (config : ExporterConfig) : ExporterClass → Option Exporter
  | .xpand =>
      if config.enablePrometheusExporter then some ⟨"xpand", config.prometheusPort⟩ else none
  | _ => none

/-- The exporter that `install` registers. -/
def onInstall (config : ExporterConfig) : ExporterClass → Option Exporter
  | .driver => some ⟨"workload_exporter", 9300⟩
  | .mariadb =>
      if config.enablePrometheusExporter then some ⟨"mariadb_exporter", config.prometheusPort⟩
      else none
  | .mysql =>
      if config.enablePrometheusExporter then some ⟨"mysql_exporter", config.prometheusPort⟩
      else none
  | .postgresql => some ⟨"postgres_exporter", config.prometheusPort⟩
  | _ => none

end ExporterClass

/-- `self.head_node`, or the only node. -/
def Cluster.GroupNodes.head? : GroupNodes → Option Node
  | .many nodes => nodes.head?
  | .one node => some node

/-- The exporter of a node. -/
def nodeExporter : Exporter :=
  ⟨"node", 9100⟩

/-- The commands with what they register: which of the classes a class is, its
    configuration, what comes of the other steps, and the pools. -/
structure Exporting extends Installer where
  classOf : Klass → ExporterClass
  config : Group → ExporterConfig
  prepare : Node → Except Exn Unit
  sent : MetricsServer → Node → Exporter → Except Exn Unit
  pool : Option Environment → Schedule Registration

/-- A computation that registers exporters. -/
abbrev Registering (α : Type) := Effect Registration Exn α

namespace Exporting

variable (self : Exporting) (c : Cluster)

def noClient : Exn :=
  ⟨.attributeError, "'MetricsServer' object has no attribute 'ssh_client'"⟩

/-- `register_metric_target`, with the server that is in use. -/
def registerMetricTarget (ms : Option MetricsServer) (n : Node) (exporter : Exporter) :
    Registering Unit :=
  match ms with
  | none => raise noClient
  | some server => do
      tell ⟨server, n, exporter⟩
      if server.sshClient.isSome then ofExcept (self.sent server n exporter) else pure ()

/-- What a class registers on its first node. -/
def registerHead (ms : Option MetricsServer) (nodes : GroupNodes) :
    Option Exporter → Registering Unit
  | none => pure ()
  | some exporter =>
      match nodes.head? with
      | none => raise ⟨.indexError, "list index out of range"⟩
      | some n => self.registerMetricTarget ms n exporter

/-- `node_configure`. -/
def nodeConfigure (ms : Option MetricsServer) (n : Node) : Registering Unit := do
  ofExcept (self.prepare n)
  self.registerMetricTarget ms n nodeExporter

/-- The nodes of an environment that `make` prepares. -/
def managedNodes (env : EnvironmentComponents) : List Node :=
  c.members.values.filter (fun n => n.vm.managed && n.vm.env == env.env.name)

/-- `make`, with the server that is in use afterwards. -/
def makeEnvs (ms : Option MetricsServer) :
    List EnvironmentComponents → Registering (Option MetricsServer)
  | [] => pure ms
  | env :: rest => do
      let server ← ofExcept (initializeServer self.metrics env.regionConfig)
      let _ ← parallel (self.pool (some env.env))
        ((managedNodes c env).map (self.nodeConfigure (some server)))
      makeEnvs (some server) rest

def make (ms : Option MetricsServer) : Registering (Option MetricsServer) :=
  self.makeEnvs c ms self.envs

/-- `klass_instance_configure`. -/
def configureInstance (ms : Option MetricsServer) (g : Group) : Registering Unit := do
  self.registerHead ms g.nodes ((self.classOf g.klass).onConfigure (self.config g))
  ofExcept (self.configuration g)

/-- `klass_instance_install`. -/
def installInstance (ms : Option MetricsServer) (g : Group) :
    Registering (String × Option BackendTarget) := do
  self.registerHead ms g.nodes ((self.classOf g.klass).onInstall (self.config g))
  let result ← ofExcept (self.outcome g)
  pure (g.name, result)

/-- The first phase of `install`, with the server that is in use afterwards. -/
def configureEnvs (ms : Option MetricsServer) :
    List EnvironmentComponents → Registering (Option MetricsServer)
  | [] => pure ms
  | env :: rest => do
      let server ← ofExcept (initializeServer self.metrics env.regionConfig)
      let groups ← ofExcept (groupNodesByName self.klasses c)
      let _ ← parallel (self.pool (some env.env))
        ((groups.values.filter (fun g => g.env == env.env.name)).map
          (self.configureInstance (some server)))
      configureEnvs (some server) rest

/-- `install`; the proxies that are told of targets register nothing. -/
def installed (ms : Option MetricsServer) : Registering (Option BackendTarget) := do
  let ms ← self.configureEnvs c ms self.envs
  let groups ← ofExcept (groupNodesByName self.klasses c)
  let completedInstalls ← parallel (self.pool none) (groups.values.map (self.installInstance ms))
  ofExcept (self.collectTarget c none completedInstalls).result

/-- The server that a region names. -/
def serverPlace (env : EnvironmentComponents) : Option (String × String) :=
  match initializeServer self.metrics env.regionConfig with
  | .ok server => server.place
  | .error _ => none

/-- The server of the environment with a name. -/
def placeOf (envName : String) : Option (String × String) :=
  (self.envs.find? (fun env => env.env.name == envName)).bind self.serverPlace

/-- The server of the last environment. -/
def lastPlace (ms : Option MetricsServer) : Option (String × String) :=
  match self.envs.getLast? with
  | none => ms.bind MetricsServer.place
  | some env => self.serverPlace env

section Servers

/-- Environments are numbered, so they have names of their own. -/
theorem envNames_nodup (builder : EnvBuilder) (extras : Dict String Value) (impl : String)
    (envs : List BuiltEnv) (h : builder.buildEnvs extras impl = .ok envs) :
    (envs.map (fun env => env.env.name)).Nodup := by
  have hfrom : ∀ (impls : List String) (i : Nat) (envs : List BuiltEnv),
      builder.buildEnvsFrom extras i impls = .ok envs →
      envs.map (fun env => env.env.name) =
        (List.range' i envs.length).map (fun j => "env_" ++ toString j) := by
    intro impls
    induction impls with
    | nil =>
        intro i envs h
        rw [← Except.ok.inj h]
        rfl
    | cons impl impls ih =>
        intro i envs h
        rcases except_bind_eq_ok _ _ _ h with ⟨env, henv, h⟩
        rcases except_bind_eq_ok _ _ _ h with ⟨rest, hrest, h⟩
        rw [← Except.ok.inj h, List.map_cons, ih (i + 1) rest hrest, List.length_cons,
          List.range'_succ, List.map_cons, builder.buildEnv_name extras i impl env henv]
  rw [hfrom _ 0 envs h]
  refine List.Nodup.map (fun i j hij => ?_) List.nodup_range'
  have hlist := congrArg String.toList hij
  rw [String.toList_append, String.toList_append] at hlist
  exact Text.toString_inj i j (String.toList_inj.mp (List.append_cancel_left hlist))

/-- A server that is in use belongs to an environment. -/
def ServerOf (env : EnvironmentComponents) (server : MetricsServer) : Prop :=
  initializeServer self.metrics env.regionConfig = .ok server

theorem placeOf_eq (hnames : (self.envs.map (fun env => env.env.name)).Nodup)
    (env : EnvironmentComponents) (henv : env ∈ self.envs) (server : MetricsServer)
    (hserver : self.ServerOf env server) : self.placeOf env.env.name = server.place := by
  have hfind : self.envs.find? (fun e => e.env.name == env.env.name) = some env := by
    cases hfound : self.envs.find? (fun e => e.env.name == env.env.name) with
    | none => exact absurd (beq_self_eq_true _) (List.find?_eq_none.mp hfound env henv)
    | some found =>
        have hname := List.find?_some hfound
        exact congrArg some (List.inj_on_of_nodup_map hnames (List.mem_of_find?_eq_some hfound)
          henv (beq_iff_eq.mp hname))
  have hplace : self.serverPlace env = server.place := by
    rw [serverPlace, hserver]
  rw [placeOf, hfind, Option.bind_some, hplace]

end Servers

section Traces

variable (ms : Option MetricsServer)

/-- A registration is the one that was asked for, on the server in use. -/
theorem mem_registerMetricTarget (n : Node) (exporter : Exporter) (r : Registration) :
    r ∈ (self.registerMetricTarget ms n exporter).trace ↔
      ms = some r.server ∧ n = r.node ∧ exporter = r.exporter := by
  cases ms with
  | none => exact ⟨fun h => absurd h List.not_mem_nil, fun h => (nomatch h.1)⟩
  | some server =>
      have hone : (self.registerMetricTarget (some server) n exporter).trace =
          [⟨server, n, exporter⟩] := by
        unfold registerMetricTarget
        dsimp only
        rw [tell_bind]
        by_cases hclient : server.sshClient.isSome = true
        · rw [if_pos hclient]
          rfl
        · rw [if_neg hclient]
          rfl
      rw [hone, List.mem_singleton]
      constructor
      · rintro rfl
        exact ⟨rfl, rfl, rfl⟩
      · rintro ⟨hserver, hnode, hexporter⟩
        rcases r with ⟨server', n', e'⟩
        rw [Option.some.inj hserver, hnode, hexporter]

theorem mem_registerHead (nodes : GroupNodes) (exporter : Option Exporter) (r : Registration) :
    r ∈ (self.registerHead ms nodes exporter).trace ↔
      ms = some r.server ∧ nodes.head? = some r.node ∧ exporter = some r.exporter := by
  cases exporter with
  | none => exact ⟨fun h => absurd h List.not_mem_nil, fun h => (nomatch h.2.2)⟩
  | some e =>
      unfold registerHead
      cases nodes.head? with
      | none => exact ⟨fun h => absurd h List.not_mem_nil, fun h => (nomatch h.2.1)⟩
      | some n =>
          rw [Option.some.injEq, Option.some.injEq]
          exact self.mem_registerMetricTarget ms n e r

/-- What is registered without an exception has a server. -/
theorem server_of_registerHead (nodes : GroupNodes) (n : Node) (e : Exporter)
    (hhead : nodes.head? = some n) (u : Unit)
    (h : (self.registerHead ms nodes (some e)).result = .ok u) : ∃ server, ms = some server := by
  cases ms with
  | some server => exact ⟨server, rfl⟩
  | none =>
      unfold registerHead at h
      rw [hhead] at h
      exact nomatch h

/-- What `make` registers: the exporter of a node, on the server of its
    environment. -/
theorem makeEnvs_registers (envs : List EnvironmentComponents) :
    Triple (fun r => (∃ env ∈ envs, self.ServerOf env r.server ∧ r.node.vm.env = env.env.name)
        ∧ r.exporter = nodeExporter)
      (fun _ => True) (self.makeEnvs c ms envs) := by
  induction envs generalizing ms with
  | nil => exact triple_pure _ _ ms trivial
  | cons env envs ih =>
      refine triple_step _ _ _ _ (fun server hserver => ?_)
      refine triple_bind _ (fun _ => True) _ _ _ ?_ (fun _ _ => ?_)
      · refine triple_mono _ _ _ _ _ (fun _ he => he) (fun _ _ => trivial)
          (triple_parallel _ _ (fun _ => True) _ (fun t ht => ?_))
        rcases List.mem_map.mp ht with ⟨n, hn, rfl⟩
        have henv : n.vm.env = env.env.name := by
          rw [managedNodes, List.mem_filter, Bool.and_eq_true, beq_iff_eq] at hn
          exact hn.2.2
        refine triple_step _ _ _ _ (fun _ _ => ⟨fun r hr => ?_, fun _ _ => trivial⟩)
        rcases (self.mem_registerMetricTarget _ n _ r).mp hr with ⟨hms, hnode, hexporter⟩
        rw [← Option.some.inj hms, ← hnode, ← hexporter]
        exact ⟨⟨env, List.mem_cons_self, hserver, henv⟩, rfl⟩
      · refine triple_mono _ _ _ _ _ ?_ (fun _ h => h) (ih (some server))
        rintro r ⟨⟨env', henv', hr⟩, hexporter⟩
        exact ⟨⟨env', List.mem_cons_of_mem env henv', hr⟩, hexporter⟩

/-- A group is of the environment of its first node. -/
theorem env_head (groups : Dict String Group)
    (hgroups : groupNodesByName self.klasses c = .ok groups)
    (g : Group) (hg : g ∈ groups.values) (n : Node) (hn : g.nodes.head? = some n) :
    n.vm.env = g.env := by
  rcases (groupNodesByName_ok_iff self.klasses c groups).mp hgroups with ⟨vs, _, d, _, rfl⟩
  rcases (Dict.mem_values_iff _ g).mp hg with ⟨k, hk⟩
  rw [Dict.get?_mapValues] at hk
  rcases Option.map_eq_some_iff.mp hk with ⟨b, _, rfl⟩
  cases b with
  | many v vs =>
      rw [← Option.some.inj hn]
      rfl
  | one v =>
      rw [← Option.some.inj hn]
      rfl

/-- What the first phase of `install` registers: an exporter of the first node
    of a group, on the server of its environment. -/
theorem configureEnvs_registers (envs : List EnvironmentComponents) :
    Triple (fun r => (∃ env ∈ envs, self.ServerOf env r.server ∧ r.node.vm.env = env.env.name)
        ∧ ∃ g, (self.classOf g.klass).onConfigure (self.config g) = some r.exporter)
      (fun ms' => ms' = match envs.getLast? with
        | none => ms
        | some env => (initializeServer self.metrics env.regionConfig).toOption)
      (self.configureEnvs c ms envs) := by
  induction envs generalizing ms with
  | nil => exact triple_pure _ _ ms rfl
  | cons env envs ih =>
      -- each environment registers with a server of its own
      refine triple_step _ _ _ _ (fun server hserver => ?_)
      refine triple_step _ _ _ _ (fun groups hgroups => ?_)
      refine triple_bind _ (fun _ => True) _ _ _ ?_ (fun _ _ => ?_)
      · refine triple_mono _ _ _ _ _ (fun _ he => he) (fun _ _ => trivial)
          (triple_parallel _ _ (fun _ => True) _ (fun t ht => ?_))
        rcases List.mem_map.mp ht with ⟨g, hg, rfl⟩
        rw [List.mem_filter, beq_iff_eq] at hg
        refine triple_bind _ (fun _ => True) _ _ _ ⟨fun r hr => ?_, fun _ _ => trivial⟩
          (fun _ _ => triple_ofExcept _ _ _ (fun _ _ => trivial))
        rcases (self.mem_registerHead _ g.nodes _ r).mp hr with ⟨hms, hnode, hexporter⟩
        rw [← Option.some.inj hms]
        exact ⟨⟨env, List.mem_cons_self, hserver,
          (self.env_head c groups hgroups g hg.1 r.node hnode).trans hg.2⟩, g, hexporter⟩
      · refine triple_mono _ _ _ _ _ ?_ ?_ (ih (some server))
        · rintro r ⟨⟨env', henv', hr⟩, hexporter⟩
          exact ⟨⟨env', List.mem_cons_of_mem env henv', hr⟩, hexporter⟩
        · intro ms' hms'
          rw [hms', List.getLast?_cons]
          cases envs.getLast? with
          | none =>
              dsimp only [Option.getD_none]
              rw [hserver]
              rfl
          | some env' => rfl

/-- When `make` is over, the nodes of every environment are registered. -/
theorem makeEnvs_all (envs : List EnvironmentComponents) (ms' : Option MetricsServer)
    (h : (self.makeEnvs c ms envs).result = .ok ms') (env : EnvironmentComponents)
    (henv : env ∈ envs) (n : Node) (hn : n ∈ managedNodes c env) :
    ∃ r ∈ (self.makeEnvs c ms envs).trace, r.node = n ∧ r.exporter = nodeExporter := by
  induction envs generalizing ms with
  | nil => exact absurd henv List.not_mem_nil
  | cons first rest ih =>
      rcases bind_result_ok _ _ _ h with ⟨server, hserver, h⟩
      rcases bind_result_ok _ _ _ h with ⟨l, hl, h⟩
      rcases List.mem_cons.mp henv with rfl | henv
      · rcases (parallel_isOk_iff _ _).mp ⟨l, hl⟩ _ (List.mem_map.mpr ⟨n, hn, rfl⟩) with ⟨u, hu⟩
        rcases bind_result_ok _ _ _ hu with ⟨v, hv, _⟩
        refine ⟨⟨server, n, nodeExporter⟩, ?_, rfl, rfl⟩
        refine mem_trace_bind_right _ _ server _ hserver (mem_trace_bind_left _ _ _ ?_)
        refine (mem_parallel_trace _ _ _).mpr ⟨_, List.mem_map.mpr ⟨n, hn, rfl⟩, ?_⟩
        exact mem_trace_bind_right _ _ v _ hv
          ((self.mem_registerMetricTarget _ n _ _).mpr ⟨rfl, rfl, rfl⟩)
      · rcases ih (some server) h henv with ⟨r, hr, hrn⟩
        exact ⟨r, mem_trace_bind_right _ _ server _ hserver
          (mem_trace_bind_right _ _ l _ hl hr), hrn⟩

/-- When the first phase of `install` is over, what its classes register is
    registered. -/
theorem configureEnvs_all (groups : Dict String Group)
    (hgroups : groupNodesByName self.klasses c = .ok groups)
    (envs : List EnvironmentComponents) (ms' : Option MetricsServer)
    (h : (self.configureEnvs c ms envs).result = .ok ms') (env : EnvironmentComponents)
    (henv : env ∈ envs) (g : Group) (hg : g ∈ groups.values) (hgenv : g.env = env.env.name)
    (n : Node) (hn : g.nodes.head? = some n) (e : Exporter)
    (he : (self.classOf g.klass).onConfigure (self.config g) = some e) :
    ∃ r ∈ (self.configureEnvs c ms envs).trace, r.node = n ∧ r.exporter = e := by
  induction envs generalizing ms with
  | nil => exact absurd henv List.not_mem_nil
  | cons first rest ih =>
      rcases bind_result_ok _ _ _ h with ⟨server, hserver, hgrouping⟩
      rcases bind_result_ok _ _ _ hgrouping with ⟨groups', hgroups', hpool⟩
      rcases bind_result_ok _ _ _ hpool with ⟨l, hl, hrest⟩
      have heq : groups = groups' := Except.ok.inj (hgroups.symm.trans hgroups')
      subst heq
      -- the environment is the first, whose pool registers the group, or a later one
      rcases List.mem_cons.mp henv with rfl | henv
      · have hmem : g ∈ groups.values.filter (fun g => g.env == env.env.name) :=
          List.mem_filter.mpr ⟨hg, beq_iff_eq.mpr hgenv⟩
        refine ⟨⟨server, n, e⟩, ?_, rfl, rfl⟩
        refine mem_trace_bind_right _ _ server _ hserver
          (mem_trace_bind_right _ _ groups _ hgroups' (mem_trace_bind_left _ _ _ ?_))
        refine (mem_parallel_trace _ _ _).mpr ⟨_, List.mem_map.mpr ⟨g, hmem, rfl⟩, ?_⟩
        exact mem_trace_bind_left _ _ _
          ((self.mem_registerHead _ g.nodes _ _).mpr ⟨rfl, hn, he⟩)
      · rcases ih (some server) hrest henv with ⟨r, hr, hrn⟩
        exact ⟨r, mem_trace_bind_right _ _ server _ hserver
          (mem_trace_bind_right _ _ groups _ hgroups' (mem_trace_bind_right _ _ l _ hl hr)), hrn⟩

end Traces

section Installs

/-- A class registers an exporter when it is installed. -/
def Installs (g : Group) (n : Node) (exporter : Exporter) : Prop :=
  g.nodes.head? = some n ∧ (self.classOf g.klass).onInstall (self.config g) = some exporter

variable (ms : Option MetricsServer)

/-- The registration of an install, on the server that is in use. -/
theorem mem_installInstance (g : Group) (r : Registration) :
    r ∈ (self.installInstance ms g).trace ↔
      ms = some r.server ∧ self.Installs g r.node r.exporter := by
  have htrace : (self.installInstance ms g).trace =
      (self.registerHead ms g.nodes
        ((self.classOf g.klass).onInstall (self.config g))).trace := by
    unfold installInstance
    cases hreg : (self.registerHead ms g.nodes
        ((self.classOf g.klass).onInstall (self.config g))).result with
    | error e => rw [bind_error _ _ e hreg]
    | ok u =>
        rw [bind_ok _ _ u hreg]
        cases hout : self.outcome g with
        | error e => exact List.append_nil _
        | ok res => exact List.append_nil _
  rw [htrace, Installs]
  exact self.mem_registerHead ms g.nodes _ r

/-- An install that is over had a server for what it registers. -/
theorem server_of_installed (g : Group) (n : Node) (e : Exporter) (h : self.Installs g n e)
    (result : String × Option BackendTarget)
    (hok : (self.installInstance ms g).result = .ok result) : ∃ server, ms = some server := by
  unfold installInstance at hok
  rcases bind_result_ok _ _ _ hok with ⟨u, hu, _⟩
  rw [h.2] at hu
  exact self.server_of_registerHead ms g.nodes n e h.1 u hu

variable (groups : Dict String Group) (hgroups : groupNodesByName self.klasses c = .ok groups)

include hgroups in
/-- What `install` registers when it is over. -/
theorem installed_trace (bt : Option BackendTarget)
    (h : (self.installed c ms).result = .ok bt) :
    ∃ ms', (self.configureEnvs c ms self.envs).result = .ok ms' ∧
      (∀ r, r ∈ (self.installed c ms).trace ↔ r ∈ (self.configureEnvs c ms self.envs).trace ∨
        ms' = some r.server ∧ ∃ g ∈ groups.values, self.Installs g r.node r.exporter) ∧
      ∀ g ∈ groups.values, ∀ n e, self.Installs g n e → ∃ server, ms' = some server := by
  rw [installed] at h
  rcases bind_result_ok _ _ _ h with ⟨ms', hms', h⟩
  rcases bind_result_ok _ _ _ h with ⟨groups', hgroups', h⟩
  rcases bind_result_ok _ _ _ h with ⟨l, hl, h⟩
  have heq : groups = groups' := Except.ok.inj (hgroups.symm.trans hgroups')
  subst heq
  refine ⟨ms', hms', fun r => ?_, fun g hg n e hinstalls => ?_⟩
  · have htrace : (self.installed c ms).trace = (self.configureEnvs c ms self.envs).trace
        ++ (parallel (self.pool none) (groups.values.map (self.installInstance ms'))).trace := by
      rw [installed, bind_ok _ _ ms' hms', hgroups, bind_ok _ _ groups rfl, bind_ok _ _ l hl,
        trace_ofExcept, trace_ofExcept, List.append_nil]
      rfl
    rw [htrace, List.mem_append, mem_parallel_trace]
    -- the pool registers what each group installs
    refine or_congr_right ?_
    constructor
    · rintro ⟨t, ht, hr⟩
      rcases List.mem_map.mp ht with ⟨g, hg, rfl⟩
      rcases (self.mem_installInstance ms' g r).mp hr with ⟨hserver, hinstalls⟩
      exact ⟨hserver, g, hg, hinstalls⟩
    · rintro ⟨hserver, g, hg, hinstalls⟩
      exact ⟨_, List.mem_map.mpr ⟨g, hg, rfl⟩,
        (self.mem_installInstance ms' g r).mpr ⟨hserver, hinstalls⟩⟩
  · rcases (parallel_isOk_iff _ _).mp ⟨l, hl⟩ _ (List.mem_map.mpr ⟨g, hg, rfl⟩) with ⟨a, ha⟩
    exact self.server_of_installed ms' g n e hinstalls a ha

end Installs

section Places

variable (groups : Dict String Group)

/-- The exporters of a cluster: those of its managed nodes and those of its
    classes. -/
inductive TargetOf : Node → Exporter → Prop where
  | node (env : EnvironmentComponents) (henv : env ∈ self.envs) (n : Node)
      (hn : n ∈ managedNodes c env) : TargetOf n nodeExporter
  | configured (env : EnvironmentComponents) (henv : env ∈ self.envs) (g : Group)
      (hg : g ∈ groups.values) (hgenv : g.env = env.env.name) (n : Node)
      (hn : g.nodes.head? = some n) (e : Exporter)
      (he : (self.classOf g.klass).onConfigure (self.config g) = some e) : TargetOf n e
  | installed (g : Group) (hg : g ∈ groups.values) (n : Node) (e : Exporter)
      (h : self.Installs g n e) : TargetOf n e

/-- An exporter is registered on a server. -/
def RegisteredOn (trace : List Registration) (n : Node) (e : Exporter)
    (place : String × String) : Prop :=
  ∃ r ∈ trace, r.node = n ∧ r.exporter = e ∧ r.server.place = some place

/-- Every exporter is registered on the server of its node's environment, on no
    other one, and nowhere when there is none. -/
def WellRegistered (trace : List Registration) : Prop :=
  ∀ n e, self.TargetOf c groups n e →
    ∀ place, RegisteredOn trace n e place ↔ self.placeOf n.vm.env = some place

variable (hgroups : groupNodesByName self.klasses c = .ok groups)
  (hnames : (self.envs.map (fun env => env.env.name)).Nodup) (ms₀ ms₁ ms : Option MetricsServer)
  (bt : Option BackendTarget)

include hnames in
theorem placed_of_env (r : Registration)
    (h : ∃ env ∈ self.envs, self.ServerOf env r.server ∧ r.node.vm.env = env.env.name) :
    r.server.place = self.placeOf r.node.vm.env := by
  rcases h with ⟨env, henv, hserver, hname⟩
  rw [hname, self.placeOf_eq hnames env henv r.server hserver]

/-- The exporters that are registered at last have names of their own. -/
theorem onInstall_apart (k k' : ExporterClass) (config config' : ExporterConfig) (e : Exporter)
    (h : k.onInstall config = some e) : e ≠ nodeExporter ∧ k'.onConfigure config' ≠ some e := by
  -- the two steps register services of different names
  have hservice : e.service ∈
      ["workload_exporter", "mariadb_exporter", "mysql_exporter", "postgres_exporter"] := by
    unfold ExporterClass.onInstall at h
    cases k with
    | driver => simp [← Option.some.inj h]
    | mariadb | mysql =>
        dsimp only at h
        by_cases hon : config.enablePrometheusExporter = true
        · rw [if_pos hon] at h
          simp [← Option.some.inj h]
        · rw [if_neg hon] at h
          exact nomatch h
    | postgresql => simp [← Option.some.inj h]
    | xpand | other => exact nomatch h
  constructor
  · rintro rfl
    exact absurd hservice (by decide)
  · intro hconf
    unfold ExporterClass.onConfigure at hconf
    cases k' with
    | xpand =>
        dsimp only at hconf
        by_cases hon : config'.enablePrometheusExporter = true
        · rw [if_pos hon] at hconf
          simp [← Option.some.inj hconf] at hservice
        · rw [if_neg hon] at hconf
          exact nomatch hconf
    | _ => exact nomatch hconf

include hgroups hnames in
/-- Exporters go to the servers of their environments when what is registered at
    last is of environments with the server of the last one. -/
theorem registered_iff (hmake : (self.make c ms₀).result = .ok ms)
    (hinstall : (self.installed c ms₁).result = .ok bt) :
    self.WellRegistered c groups ((self.make c ms₀).trace ++ (self.installed c ms₁).trace) ↔
      ∀ g ∈ groups.values, ∀ n e, self.Installs g n e →
        self.placeOf n.vm.env = self.lastPlace ms₁ := by
  rcases self.installed_trace c ms₁ groups hgroups bt hinstall with ⟨ms', hms', htrace, hserved⟩
  have hmade := (self.makeEnvs_registers c ms₀ self.envs).trace
  have hconf := self.configureEnvs_registers c ms₁ self.envs
  have hlast : self.lastPlace ms₁ = ms'.bind MetricsServer.place := by
    rw [hconf.result ms' hms', lastPlace]
    cases self.envs.getLast? with
    | none => rfl
    | some env =>
        dsimp only
        rw [serverPlace]
        cases initializeServer self.metrics env.regionConfig <;> rfl
  constructor
  · intro h g hg n e hinstalls
    rcases hserved g hg n e hinstalls with ⟨server, hserver⟩
    have hmem : (⟨server, n, e⟩ : Registration) ∈ (self.installed c ms₁).trace :=
      (htrace _).mpr (Or.inr ⟨hserver, g, hg, hinstalls⟩)
    have hwell := h n e (.installed g hg n e hinstalls)
    rw [hlast, hserver, Option.bind_some]
    cases hplace : server.place with
    | some place =>
        exact (hwell place).mp ⟨_, List.mem_append_right _ hmem, rfl, rfl, hplace⟩
    | none =>
        -- another registration of the exporter would be one of this phase
        cases hown : self.placeOf n.vm.env with
        | none => rfl
        | some place =>
            rcases (hwell place).mpr hown with ⟨r, hr, _, hexporter, hrplace⟩
            rcases List.mem_append.mp hr with hr | hr
            · exact absurd (hexporter.symm.trans (hmade r hr).2)
                (onInstall_apart _ .other _ (self.config g) e hinstalls.2).1
            · rcases (htrace r).mp hr with hr | ⟨hrserver, _⟩
              · rcases (hconf.trace r hr).2 with ⟨g', hg'⟩
                rw [hexporter] at hg'
                exact absurd hg' (onInstall_apart _ _ _ _ e hinstalls.2).2
              · rw [hserver] at hrserver
                rw [← Option.some.inj hrserver, hplace] at hrplace
                exact nomatch hrplace
  · intro h n e htarget place
    have hplaced : ∀ r ∈ (self.make c ms₀).trace ++ (self.installed c ms₁).trace,
        r.server.place = self.placeOf r.node.vm.env := by
      intro r hr
      rcases List.mem_append.mp hr with hr | hr
      · exact self.placed_of_env hnames r (hmade r hr).1
      · rcases (htrace r).mp hr with hr | ⟨hserver, g, hg, hinstalls⟩
        · exact self.placed_of_env hnames r (hconf.trace r hr).1
        · rw [h g hg r.node r.exporter hinstalls, hlast, hserver, Option.bind_some]
    have hdone : ∃ r ∈ (self.make c ms₀).trace ++ (self.installed c ms₁).trace,
        r.node = n ∧ r.exporter = e := by
      cases htarget with
      | node env henv n hn =>
          rcases self.makeEnvs_all c ms₀ self.envs ms hmake env henv n hn with ⟨r, hr, hrn⟩
          exact ⟨r, List.mem_append_left _ hr, hrn⟩
      | configured env henv g hg hgenv n hn e he =>
          rcases self.configureEnvs_all c ms₁ groups hgroups self.envs ms' hms' env henv g hg
            hgenv n hn e he with ⟨r, hr, hrn⟩
          exact ⟨r, List.mem_append_right _ ((htrace r).mpr (Or.inl hr)), hrn⟩
      | installed g hg n e hinstalls =>
          rcases hserved g hg n e hinstalls with ⟨server, hserver⟩
          exact ⟨⟨server, n, e⟩, List.mem_append_right _
            ((htrace _).mpr (Or.inr ⟨hserver, g, hg, hinstalls⟩)), rfl, rfl⟩
    constructor
    · rintro ⟨r, hr, hnode, _, hplace⟩
      rw [← hnode, ← hplaced r hr, hplace]
    · intro hown
      rcases hdone with ⟨r, hr, hnode, hexporter⟩
      refine ⟨r, hr, hnode, hexporter, ?_⟩
      rw [hplaced r hr, hnode, hown]

end Places

section Examples

/-- A region with a metrics server. -/
def region (i : Nat) (host : Option String) : EnvironmentComponents :=
  ⟨⟨"env_" ++ toString i, "aws", "aws.AWS", "us-west-2"⟩,
    Dict.ofList (host.toList.map (fun host => ("metric_server",
      .dict [("hostname", .str host), ("remote_target_path", .str "/targets")]))), Dict.empty, []⟩

/-- Some regions, whose servers and drivers do what they are asked. -/
def monitored (envs : List EnvironmentComponents) : Exporting where
  clusterName := "c1"
  envs := envs
  extraImplParams := ⟨Dict.empty, plain_empty⟩
  klasses := shippedKlasses
  components :=
    ⟨fun _ => false, fun _ _ _ => .ok (), fun _ _ _ => .ok none, fun _ _ _ bt => .ok bt⟩
  metrics := ⟨fun _ => .ok (), fun _ _ => ⟨true, .ok (), fun _ => rfl⟩⟩
  configureSchedule := fun _ => .sequential Event
  classOf := fun klass => if klass.name = "BaseDriver" then .driver else .other
  config := fun _ => ⟨true, 9290⟩
  prepare := fun _ => .ok ()
  sent := fun _ _ _ => .ok ()
  pool := fun _ => .sequential Registration

def aDriver : Node :=
  componentNode "driver-0" "driver" "driver.BaseDriver"

/-- A cluster that is a driver in the first region. -/
def driverOnly : Cluster :=
  clusterOfNodes [.node "driver-0" []] [aDriver]

def driverOnlyGroups : Dict String Group :=
  Dict.ofList [("driver-0", ⟨⟨"BaseDriver", false, false⟩, .one aDriver, "driver-0", "env_0"⟩)]

/-- With one region, its exporters are on the server of that region. -/
theorem oneRegion_registered :
    (monitored [region 0 (some "m0")]).WellRegistered driverOnly driverOnlyGroups
      (((monitored [region 0 (some "m0")]).make driverOnly none).trace
        ++ ((monitored [region 0 (some "m0")]).installed driverOnly none).trace) := by
  refine (registered_iff (monitored [region 0 (some "m0")]) driverOnly driverOnlyGroups rfl
    (by decide) none none _ _ rfl rfl).mpr (fun g hg n e hinstalls => ?_)
  have hone : driverOnlyGroups.values =
      [⟨⟨"BaseDriver", false, false⟩, .one aDriver, "driver-0", "env_0"⟩] := rfl
  rw [hone] at hg
  rw [List.mem_singleton.mp hg] at hinstalls
  rw [← Option.some.inj hinstalls.1]
  rfl

/-- With a second region that has no server, one exporter is registered nowhere. -/
theorem twoRegions_unregistered : ¬ ∀ (self : Exporting) (c : Cluster)
    (groups : Dict String Group) (ms₀ ms₁ ms : Option MetricsServer) (bt : Option BackendTarget),
    groupNodesByName self.klasses c = .ok groups →
    (self.envs.map (fun env => env.env.name)).Nodup →
    (self.make c ms₀).result = .ok ms → (self.installed c ms₁).result = .ok bt →
    self.WellRegistered c groups ((self.make c ms₀).trace ++ (self.installed c ms₁).trace) := by
  intro h
  have hwell := h (monitored [region 0 (some "m0"), region 1 none]) driverOnly driverOnlyGroups
    none none _ _ rfl (by decide) rfl rfl
  have htarget := hwell aDriver ⟨"workload_exporter", 9300⟩
    (.installed _ List.mem_cons_self _ _ ⟨rfl, rfl⟩) ("m0", "/targets")
  rcases htarget.mpr rfl with ⟨r, hr, _, hexporter, hplace⟩
  have htrace : (((monitored [region 0 (some "m0"), region 1 none]).make driverOnly none).trace
      ++ ((monitored [region 0 (some "m0"), region 1 none]).installed driverOnly none).trace)
      = [⟨⟨"/targets", some "m0"⟩, aDriver, nodeExporter⟩,
        ⟨⟨"None", none⟩, aDriver, ⟨"workload_exporter", 9300⟩⟩] := rfl
  rw [htrace] at hr
  rcases List.mem_cons.mp hr with rfl | hr
  · exact absurd hexporter (by decide)
  · rw [List.mem_singleton.mp hr] at hplace
    exact nomatch hplace

end Examples

end Exporting

end Xbench
