import Xbench.Commands.ParseUnknown
import Xbench.Commands.Allocation
import Xbench.Config.YamlConfig

/-!
# Running a Workload

What a workload runner is given.

The parameters of a runner are a union of six dictionaries, in which the later
ones win: the entries of the workload, the fields of the target, the artifact
directory, the name of the workload, the backend, and at the end everything
that the command line has, section by section. A section is named after a
component, and `backend` is a component. So a parameter for the backend takes
the place of the backend.

The fields of the target are those it has after the section `bt` of the command
line has been set. A runner gets all that it should exactly when no section has
one of the names, or has it with the same value.

## Main definitions

* `Passed`: What a runner can be given.
* `BackendKlass`: A class of backends.
* `WorkloadSetup`: What running a workload has to do with.
* `loadWorkload`: The entries of a workload.
* `WorkloadRunning`: A workload to run.
* `workloadRunning`: Getting ready to run it.
* `WorkloadRunning.getAllParams`: The parameters of the runner.
* `Receives`: The runner gets what was computed.
* `LeavesAlone`: No section has the name of something else.
* `WorkloadRunning.Informed`: The runner of a workload gets what was computed.

## Theorems

* `workloadRunning_ok`: What is computed from the arguments.
* `getAllParams_get?`: The parameters, name by name.
* `receives_params_iff`: When a runner gets what was computed.
* `informed_iff`: The same from the arguments.
-/

namespace Xbench

open Text

/-- What a runner can be given: an entry of the file, a value, or a backend. -/
inductive Passed (β : Type) where
  | entry (c : Entry)
  | value (v : Value)
  | backend (b : β)

/-- The nodes an instance of a backend class gets. -/
inductive BackendNodes where
  | all (nodes : List (Option Node))
  | first (node : Node)

/-- A class of backends: is it clustered, and what comes of making one with its
    nodes and the section `bt`. -/
structure BackendKlass (β : Type) where
  clustered : Bool
  make : BackendNodes → Value → Except Exn β

/-- What running a workload has to do with: the saved cluster, the workload
    file, the classes of the backends, and the Grafana servers of the
    environments. -/
structure WorkloadSetup (β : Type) where
  loadCluster : Except Exn Cluster
  objects : Objects
  workloadYaml : YamlConfig
  getClassFromKlass : String → Except Exn (BackendKlass β)
  grafana : List Environment → Except Exn Unit

section Workload

/-- What was found, as an entry. -/
def Found.entry : Found → Entry
  | .copy m => .own m.entries
  | .same c => c

/-- `config.get(root, None)` of a dictionary that has taken the place of the
    file. -/
def lookupIn (s : Objects) (config : Found) (root : String) : Except Exn (Option Entry) :=
  match YamlConfig.given (some root) with
  | none => .ok (some config.entry)
  | some r =>
      match config.read s with
      | some m => .ok (m.get? r)
      | none => .error ⟨.attributeError, "object has no attribute 'get'"⟩

/-- The entries of a workload over the defaults of its benchmark. The defaults
    of the benchmark and its workloads take the place of those of the file. -/
def loadWorkload (s : Objects) (y : YamlConfig) (benchmarkName workloadName : String) :
    Except Exn Found := do
  let defaults ← y.getKey s (some benchmarkName) (some "defaults") false
  let y := { y with defaults := some defaults.entry }
  let workloads ← y.getKey s (some benchmarkName) (some "workloads") true
  let entry ← lookupIn s workloads workloadName
  y.taken s (some workloadName) none true entry

/-- `extra_impl_params.get(section, {})`, where a mapping is needed. -/
def sectionOf (extras : Dict String Value) (name : String) (e : Exn) :
    Except Exn (List (String × Value)) :=
  match extras.get? name with
  | none => .ok []
  | some (.dict entries) => .ok entries
  | some _ => .error e

end Workload

/-- A workload to run. Of the cluster's target there are the attributes. -/
structure WorkloadRunning (β : Type) where
  cluster : Cluster
  bt : Dict String Value
  benchmarkName : String
  workloadName : String
  artifactDir : String
  extraImplParams : Dict String Value
  tag : Option String
  workloadConf : Dict String (Passed β)
  allBackends : List (Option Node)
  backend : β

section Run

variable {β : Type} (setup : WorkloadSetup β)

def noUnion : Exn :=
  ⟨.typeError, "unsupported operand type(s) for |"⟩

def noItems : Exn :=
  ⟨.attributeError, "object has no attribute 'items'"⟩

/-- `cluster.bt.update(extra_impl_params.get("bt", {}))`, from the attributes. -/
def updatedTarget (bt : BackendTarget) (extras : Dict String Value) :
    Except Exn (Dict String Value) := do
  let entries ← sectionOf extras "bt" noItems
  BackendTarget.update bt.attributes entries

/-- `workload_conf`. -/
def workloadConfOf (s : Objects) (found : Found) (extras : Dict String Value) :
    Except Exn (Dict String (Passed β)) :=
  match found.read s with
  | none => .error noUnion
  | some m => do
      let entries ← sectionOf extras "workload" noUnion
      .ok ((m.mapValues Passed.entry).union ((Dict.ofList entries).mapValues Passed.value))

/-- `all_backends[0]`, of which the machine is asked. -/
def firstBackend : List (Option Node) → Except Exn Node
  | [] => .error ⟨.indexError, "list index out of range"⟩
  | none :: _ => .error Cluster.missingMember
  | some node :: _ => .ok node

/-- `WorkloadRunning(..)`. -/
def workloadRunning (benchmarkName workloadName artifactDir : String)
    (extras : Dict String Value) (tag : Option String) : Except Exn (WorkloadRunning β) := do
  let cluster ← setup.loadCluster
  let found ← loadWorkload setup.objects setup.workloadYaml benchmarkName workloadName
  let workloadConf ← workloadConfOf setup.objects found extras
  let bt ← updatedTarget cluster.bt extras
  let allBackends ← cluster.getBackendNodes
  let first ← firstBackend allBackends
  let klass ← setup.getClassFromKlass first.vm.klass
  let backend ← klass.make (if klass.clustered then .all allBackends else .first first)
    ((extras.get? "bt").getD (.dict []))
  setup.grafana cluster.envs
  .ok
    { cluster := cluster
      bt := bt
      benchmarkName := benchmarkName
      workloadName := workloadName
      artifactDir := artifactDir
      extraImplParams := extras
      tag := tag
      workloadConf := workloadConf
      allBackends := allBackends
      backend := backend }

/-- `_get_all_params`. -/
def WorkloadRunning.getAllParams (self : WorkloadRunning β) :
    Except Exn (Dict String (Passed β)) := do
  let fields ← BackendTarget.asdict self.bt
  let params := self.workloadConf.union (fields.mapValues Passed.value)
  let params := params.set "artifact_dir" (.value (.str self.artifactDir))
  let params := params.set "workload_name" (.value (.str self.workloadName))
  let params := params.set "backend" (.backend self.backend)
  .ok (params.union (self.extraImplParams.mapValues Passed.value))

/-- `run` has an artifact directory of its own. -/
def WorkloadRunning.within (self : WorkloadRunning β) (artifactDir : String) :
    WorkloadRunning β :=
  { self with artifactDir := artifactDir }

/-- The runner gets the backend, the artifact directory, the name of the
    workload and the fields of the target as they were computed. -/
structure Receives (run : WorkloadRunning β) (fields : Dict String Value)
    (params : Dict String (Passed β)) : Prop where
  backend : params.get? "backend" = some (.backend run.backend)
  artifactDir : params.get? "artifact_dir" = some (.value (.str run.artifactDir))
  workloadName : params.get? "workload_name" = some (.value (.str run.workloadName))
  target : ∀ name v, fields.get? name = some v → params.get? name = some (.value v)

/-- No section of the command line has the name of something else, except with
    the same value. -/
structure LeavesAlone (extras fields : Dict String Value) (artifactDir workloadName : String) :
    Prop where
  backend : extras.get? "backend" = none
  artifactDir : ∀ v, extras.get? "artifact_dir" = some v → v = .str artifactDir
  workloadName : ∀ v, extras.get? "workload_name" = some v → v = .str workloadName
  target : ∀ name w v, fields.get? name = some w → extras.get? name = some v → v = w

section Params

variable (self : WorkloadRunning β)

/-- The parameters, name by name: the later ones win. -/
theorem getAllParams_get? (fields : Dict String Value)
    (hfields : BackendTarget.asdict self.bt = .ok fields) :
    ∃ params, self.getAllParams = .ok params
      ∧ ∀ name, params.get? name
        = ((self.extraImplParams.get? name).map Passed.value).or
            (if name = "backend" then some (.backend self.backend)
            else if name = "workload_name" then some (.value (.str self.workloadName))
            else if name = "artifact_dir" then some (.value (.str self.artifactDir))
            else ((fields.get? name).map Passed.value).or (self.workloadConf.get? name)) := by
  unfold WorkloadRunning.getAllParams
  rw [hfields]
  refine ⟨_, rfl, fun name => ?_⟩
  rw [Dict.get?_union, Dict.get?_mapValues, Dict.get?_set, Dict.get?_set, Dict.get?_set,
    Dict.get?_union, Dict.get?_mapValues]

/-- A name that has something of its own has it still when no section has the
    name, or has it with the same value. -/
theorem or_eq_iff (o : Option Value) (x : Passed β) :
    (o.map Passed.value).or (some x) = some x ↔ ∀ v, o = some v → Passed.value v = x := by
  cases o with
  | none => simp
  | some v => simp

/-- The runner of a workload gets what was computed when the sections leave it
    alone. -/
theorem receives_params_iff (fields : Dict String Value) (params : Dict String (Passed β))
    (hfields : BackendTarget.asdict self.bt = .ok fields)
    (hparams : self.getAllParams = .ok params) :
    Receives self fields params
      ↔ LeavesAlone self.extraImplParams fields self.artifactDir self.workloadName := by
  rcases getAllParams_get? self fields hfields with ⟨params', hparams', hget⟩
  rw [← Except.ok.inj (hparams.symm.trans hparams')] at hget
  have hbackend := hget "backend"
  have hartifact := hget "artifact_dir"
  have hworkload := hget "workload_name"
  rw [if_pos rfl] at hbackend
  rw [if_neg (by decide), if_neg (by decide), if_pos rfl] at hartifact
  rw [if_neg (by decide), if_pos rfl] at hworkload
  -- a field has none of the three names
  have htarget : ∀ name v, fields.get? name = some v → params.get? name
      = ((self.extraImplParams.get? name).map Passed.value).or (some (.value v)) := by
    intro name v hv
    have hname := BackendTarget.mem_fieldNames_of_asdict self.bt fields hfields name v hv
    have hapart : ∀ other, other ∉ BackendTarget.fieldNames → name ≠ other :=
      fun other hother heq => hother (heq ▸ hname)
    rw [hget name, if_neg (hapart _ (by decide)), if_neg (hapart _ (by decide)),
      if_neg (hapart _ (by decide)), hv, Option.map_some, Option.some_or]
  constructor
  · intro h
    refine ⟨?_, fun v hv => ?_, fun v hv => ?_, fun name w v hw hv => ?_⟩
    · have hlast := hbackend.symm.trans h.backend
      rw [or_eq_iff] at hlast
      cases hextra : self.extraImplParams.get? "backend" with
      | none => rfl
      | some v => exact nomatch hlast v hextra
    · exact Passed.value.inj ((or_eq_iff _ _).mp (hartifact.symm.trans h.artifactDir) v hv)
    · exact Passed.value.inj ((or_eq_iff _ _).mp (hworkload.symm.trans h.workloadName) v hv)
    · exact Passed.value.inj
        ((or_eq_iff _ _).mp ((htarget name w hw).symm.trans (h.target name w hw)) v hv)
  · intro h
    refine ⟨?_, ?_, ?_, fun name v hv => ?_⟩
    · rw [hbackend, h.backend]
      rfl
    · rw [hartifact, or_eq_iff]
      exact fun v hv => congrArg Passed.value (h.artifactDir v hv)
    · rw [hworkload, or_eq_iff]
      exact fun v hv => congrArg Passed.value (h.workloadName v hv)
    · rw [htarget name v hv, or_eq_iff]
      exact fun w hw => congrArg Passed.value (h.target name v w hv hw)

end Params

/-- Sections of other names leave everything alone. -/
theorem leavesAlone_of_apart (extras attrs fields : Dict String Value)
    (artifactDir workloadName : String) (hfields : BackendTarget.asdict attrs = .ok fields)
    (h : ∀ name ∈ "backend" :: "artifact_dir" :: "workload_name" :: BackendTarget.fieldNames,
      (extras.get? name).isSome = false) :
    LeavesAlone extras fields artifactDir workloadName := by
  simp only [Option.isSome_eq_false_iff, Option.isNone_iff_eq_none, List.forall_mem_cons] at h
  rcases h with ⟨hbackend, hartifact, hworkload, hrest⟩
  refine ⟨hbackend, fun v hv => ?_, fun v hv => ?_, fun name w v hw hv => ?_⟩
  · exact nomatch hartifact.symm.trans hv
  · exact nomatch hworkload.symm.trans hv
  · have hname := BackendTarget.mem_fieldNames_of_asdict attrs fields hfields name w hw
    exact nomatch (hrest name hname).symm.trans hv

/-- What is computed from the arguments. -/
theorem workloadRunning_ok (benchmarkName workloadName artifactDir : String)
    (extras : Dict String Value) (tag : Option String) (self : WorkloadRunning β)
    (h : workloadRunning setup benchmarkName workloadName artifactDir extras tag = .ok self) :
    ∃ cluster, setup.loadCluster = .ok cluster
      ∧ updatedTarget cluster.bt extras = .ok self.bt
      ∧ self.extraImplParams = extras ∧ self.workloadName = workloadName := by
  unfold workloadRunning at h
  rcases except_bind_eq_ok _ _ _ h with ⟨cluster, hcluster, h⟩
  rcases except_bind_eq_ok _ _ _ h with ⟨_, _, h⟩
  rcases except_bind_eq_ok _ _ _ h with ⟨_, _, h⟩
  rcases except_bind_eq_ok _ _ _ h with ⟨bt, hbt, h⟩
  rcases except_bind_eq_ok _ _ _ h with ⟨_, _, h⟩
  rcases except_bind_eq_ok _ _ _ h with ⟨_, _, h⟩
  rcases except_bind_eq_ok _ _ _ h with ⟨_, _, h⟩
  rcases except_bind_eq_ok _ _ _ h with ⟨_, _, h⟩
  rcases except_bind_eq_ok _ _ _ h with ⟨_, _, h⟩
  rw [← Except.ok.inj h]
  exact ⟨cluster, hcluster, hbt, rfl, rfl⟩

/-- The runner gets what was computed. -/
def WorkloadRunning.Informed (self : WorkloadRunning β) : Prop :=
  ∃ fields params, BackendTarget.asdict self.bt = .ok fields ∧ self.getAllParams = .ok params
    ∧ Receives self fields params

/-- When the runner gets what was computed, in whatever artifact directory the
    run has. -/
theorem informed_iff (benchmarkName workloadName artifactDir : String)
    (extras : Dict String Value) (tag : Option String) (self : WorkloadRunning β)
    (h : workloadRunning setup benchmarkName workloadName artifactDir extras tag = .ok self)
    (runDir : String) :
    (self.within runDir).Informed
      ↔ ∃ cluster attrs fields, setup.loadCluster = .ok cluster
        ∧ updatedTarget cluster.bt extras = .ok attrs
        ∧ BackendTarget.asdict attrs = .ok fields
        ∧ LeavesAlone extras fields runDir workloadName := by
  rcases workloadRunning_ok setup benchmarkName workloadName artifactDir extras tag self h with
    ⟨cluster, hcluster, hbt, hextras, hname⟩
  have hiff := fun fields params => receives_params_iff (self.within runDir) fields params
  constructor
  · rintro ⟨fields, params, hfields, hparams, hreceives⟩
    have halone := (hiff fields params hfields hparams).mp hreceives
    refine ⟨cluster, self.bt, fields, hcluster, hbt, hfields, ?_⟩
    rw [← hextras, ← hname]
    exact halone
  · rintro ⟨cluster', attrs, fields, hcluster', hbt', hfields, halone⟩
    rw [hcluster] at hcluster'
    rw [← Except.ok.inj hcluster', hbt] at hbt'
    rw [← Except.ok.inj hbt'] at hfields
    rcases getAllParams_get? (self.within runDir) fields hfields with ⟨params, hparams, _⟩
    refine ⟨fields, params, hfields, hparams, (hiff fields params hfields hparams).mpr ?_⟩
    rw [← hextras, ← hname] at halone
    exact halone

end Run

section Replaced

/-- A workload file with one workload. -/
def workloadObjects : Objects
  | 0 => Dict.ofList [("sysbench", .ref 1)]
  | 1 => Dict.ofList [("defaults", .ref 2), ("workloads", .ref 3)]
  | 2 => Dict.ofList [("klass", .scalar (.str "benchmark.Sysbench"))]
  | 3 => Dict.ofList [("sysbench_2K", .ref 4)]
  | 4 => Dict.ofList [("threads", .scalar (.str "[1,2]"))]
  | _ => Dict.empty

/-- A cluster of a driver and a backend. -/
def backendCluster : Cluster :=
  { oneDriverCluster with
    members := Dict.ofList [("backend-0", ⟨driverVm none⟩)]
    clusterTree := .node "cluster" [.node "driver-0" [.node "backend-0" []]]
    bt := .new "127.0.0.1" "sysbench" "sysbench" "sysbench" 3306 }

/-- A workload on it, whose backends are told by a name. -/
def sysbenchSetup : WorkloadSetup String where
  loadCluster := .ok backendCluster
  objects := workloadObjects
  workloadYaml := ⟨0, none, 10, "workload.yaml"⟩
  getClassFromKlass := fun _ => .ok ⟨false, fun _ _ => .ok "backend-0"⟩
  grafana := fun _ => .ok ()

/-- Getting ready to run it with arguments of the command line. -/
def sysbenchRun (extras : Dict String Value) : Except Exn (WorkloadRunning String) :=
  workloadRunning sysbenchSetup "sysbench" "sysbench_2K" "artifacts" extras none

/-- The path of the version of the backend. -/
def backendVersion : ParameterPath :=
  ⟨"backend", ["version"], by decide⟩

/-- `--workload.threads=4 --bt.port=3307`. -/
def threadsAndPort : Dict String Value :=
  Dict.ofList [("workload", .dict [("threads", .int 4)]), ("bt", .dict [("port", .int 3307)])]

/-- The runner gets everything, with the port of the command line. -/
theorem threadsAndPort_informed :
    ∃ self, sysbenchRun threadsAndPort = .ok self ∧ (self.within "artifacts/dev").Informed := by
  refine ⟨_, rfl, ?_⟩
  refine (informed_iff sysbenchSetup "sysbench" "sysbench_2K" "artifacts" threadsAndPort none _ rfl
    "artifacts/dev").mpr ⟨backendCluster, backendCluster.bt.attributes.set "port" (.int 3307), _,
      rfl, rfl, rfl, ?_⟩
  exact leavesAlone_of_apart threadsAndPort (backendCluster.bt.attributes.set "port" (.int 3307))
    _ _ _ rfl (by decide)

/-- `--backend.version=8`, as it is parsed, takes the place of the backend. -/
theorem backend_replaced :
    (parseUnknown asText ["--backend.version=8"]).map extraImplParams
        = .ok (Dict.ofList [("backend", .dict [("version", .str "8")])])
      ∧ ∃ self params,
        sysbenchRun (Dict.ofList [("backend", .dict [("version", .str "8")])]) = .ok self
          ∧ self.backend = "backend-0"
          ∧ (self.within "artifacts/dev").getAllParams = .ok params
          ∧ params.get? "backend" = some (.value (.dict [("version", .str "8")]))
          ∧ ¬ (self.within "artifacts/dev").Informed := by
  constructor
  · have hparsed := parse_argument backendVersion "8" (by decide)
    have harg : backendVersion.argument "8" = "--backend.version=8" := rfl
    rw [← harg, hparsed]
    rfl
  · refine ⟨_, _, rfl, rfl, rfl, rfl, ?_⟩
    rintro ⟨fields, params, _, hparams, hreceives⟩
    have hbackend := hreceives.backend
    rw [← Except.ok.inj hparams] at hbackend
    exact nomatch Option.some.inj hbackend

end Replaced

end Xbench
