import Xbench.Lib.Transition
import Xbench.Commands.Allocation
import Xbench.Commands.Exporters
import Xbench.Commands.StartStop

/-!
# The Life of a Cluster

What the state of a cluster file says about it, whatever steps led there.

A cluster is configured, allocated, made and installed, may be cleaned, stopped
and started, in any order and with any step failing at any of its calls. The
state `ready` is meant for a cluster with its software on it. `install` sets it
when it is over, `stop` turns it into `down` and `start` back into `ready`, and
`configure` and `allocate` leave it for another. `clean` does not: it saves an
empty target under the state the cluster had.

`Keeps` says what all steps but `install` have in common. What they save is not
ready or down unless what they loaded was, and then it has the machines and the
target it had. `clean` is one of them for a cluster that is neither ready nor
down, and on any cluster when it raises before its first environment is over.

## Main definitions

* `Uninstaller.clean`: Uninstalling the software.
* `SameMachines`: The same machines under the same names.
* `Lifecycle.Keeps`: What a step may save of a cluster.
* `Lifecycle.Step`: The steps.
* `Lifecycle.World`: The cluster files, and the last install.
* `Lifecycle.take`: Taking a step.
* `Lifecycle.Ready`: The state ready means installed.
* `Lifecycle.Spares`: A step cleans no cluster that is installed.

## Theorems

* `file_after`: The file after some saves.
* `configure_saves`, `allocateEnvs_saves`, `startStop_saves`, `cleanEnvs_saves`:
  What the steps save.
* `installed?_isSome_iff`: An install is over when it computed a target.
* `take_keeps`: A step that cleans no installed cluster keeps the invariant.
* `ready_installed`: Without such a step, ready means installed.
-/

namespace Xbench

open Effect

open Cluster (Group groupNodesByName)

/-- The command with what comes of cleaning each component. -/
structure Uninstaller extends Installer where
  cleanKlass : Group → Except Exn Unit
  cleanSchedule : Environment → Schedule Event

namespace Uninstaller

variable (self : Uninstaller)

/-- The target `clean` leaves. -/
def cleaned (c : Cluster) : Cluster :=
  { c with bt := .new "" "" "" "" 0 }

/-- The loop of `clean`, which saves after each environment. -/
def cleanEnvs : List EnvironmentComponents → Cluster → Command Unit
  | [], _ => pure ()
  | env :: rest, c => do
      let _ ← ofExcept (initializeServer self.metrics env.regionConfig)
      let groups ← ofExcept (groupNodesByName self.klasses c)
      let _ ← parallel (self.cleanSchedule env.env)
        ((groups.values.filter (fun g => g.env == env.env.name)).map
          (fun g => ofExcept (self.cleanKlass g)))
      tell (.saveCluster (cleaned c))
      cleanEnvs rest (cleaned c)

/-- `clean`; its `except` clauses are those of `install`. -/
def clean (opens : Cluster → Except Exn Unit) (dir : ClustersDir) : Command Unit :=
  attempt (do
    let c ← ofExcept (loadCluster opens dir self.clusterName)
    self.cleanEnvs self.envs c) (fun e => raise (installError e))

end Uninstaller

/-- The machine of a node: its environment, its name and its identifier. -/
def Node.machine (n : Node) : String × String × Option String :=
  (n.vm.env, n.vm.name, n.vm.id)

/-- The same machines under the same names. -/
def SameMachines (c c' : Cluster) : Prop :=
  ∀ k, (c'.members.get? k).map Node.machine = (c.members.get? k).map Node.machine

theorem sameMachines_asFile (c : Cluster) : SameMachines c c.asFile := by
  intro k
  have hget : c.asFile.members.get? k = (c.members.get? k).map (fun n => ⟨n.vm.asBase⟩) :=
    Dict.get?_mapValues _ c.members k
  rw [hget, Option.map_map]
  rfl

theorem membersNamed_asFile (c : Cluster) (h : MembersNamed c) : MembersNamed c.asFile := by
  intro k n hn
  have hget : c.asFile.members.get? k = (c.members.get? k).map (fun n => ⟨n.vm.asBase⟩) :=
    Dict.get?_mapValues _ c.members k
  rw [hget] at hn
  rcases Option.map_eq_some_iff.mp hn with ⟨m, hm, rfl⟩
  exact h k m hm

theorem asSaved_asSaved (bt : BackendTarget) : bt.asSaved.asSaved = bt.asSaved := by
  have hfield : ∀ v, BackendTarget.savedField (BackendTarget.savedField v)
      = BackendTarget.savedField v := by
    intro v
    cases v with
    | _ => rfl
  unfold BackendTarget.asSaved
  simp only [hfield]

namespace Lifecycle

/-- The states of a cluster that is installed, or is meant to be. -/
def Serving (c : Cluster) : Prop :=
  c.state = .ready ∨ c.state = .down

/-- What a step may save of a cluster: one that is ready or down only if the
    first was, with its machines and its target. -/
structure Keeps (c c' : Cluster) : Prop where
  named : MembersNamed c'
  serving : Serving c' → Serving c ∧ SameMachines c c' ∧ c'.bt = c.bt

theorem keeps_refl (c : Cluster) (h : MembersNamed c) : Keeps c c :=
  ⟨h, fun hserving => ⟨hserving, fun _ => rfl, rfl⟩⟩

theorem keeps_trans (c c' c'' : Cluster) (h : Keeps c c') (h' : Keeps c' c'') : Keeps c c'' where
  named := h'.named
  serving := by
    intro hserving
    rcases h'.serving hserving with ⟨hserving', hsame', hbt'⟩
    rcases h.serving hserving' with ⟨hserving'', hsame, hbt⟩
    exact ⟨hserving'', fun k => (hsame' k).trans (hsame k), hbt'.trans hbt⟩

theorem not_serving (c : Cluster) (hready : c.state ≠ .ready) (hdown : c.state ≠ .down) :
    ¬ Serving c := by
  rintro (h | h)
  · exact hready h
  · exact hdown h

/-- A cluster of another state. -/
def Unserving (c : Cluster) : Prop :=
  MembersNamed c ∧ ¬ Serving c

theorem keeps_of_unserving (c c' : Cluster) (h : Unserving c') : Keeps c c' :=
  ⟨h.1, fun hserving => absurd hserving h.2⟩

/-- No file is removed, and every cluster that is saved is as promised. -/
def SavesOnly (P : Cluster → Prop) : Event → Prop
  | .saveCluster c => P c
  | .removeClusterYaml _ => False
  | _ => True

theorem savesOnly_unwritten (P : Cluster → Prop) (e : Event) (h : e.writesFile = false) :
    SavesOnly P e := by
  cases e with
  | saveCluster c => exact nomatch h
  | removeClusterYaml name => exact nomatch h
  | _ => exact trivial

theorem savesOnly_mono (P Q : Cluster → Prop) (hPQ : ∀ c, P c → Q c) (e : Event)
    (h : SavesOnly P e) : SavesOnly Q e := by
  cases e with
  | saveCluster c => exact hPQ c h
  | removeClusterYaml name => exact h
  | _ => exact trivial

/-- The file after some saves is the one before, or one that was saved. -/
theorem file_after (P : Cluster → Prop) (dir : ClustersDir) (trace : List Event) (name : String)
    (h : ∀ e ∈ trace, SavesOnly P e) :
    (dir.after trace).file name = dir.file name
      ∨ ∃ c, P c ∧ (dir.after trace).file name = some c.asFile := by
  induction trace generalizing dir with
  | nil => exact Or.inl rfl
  | cons e trace ih =>
      have he := h e List.mem_cons_self
      rcases ih (dir.apply e) (fun e' he' => h e' (List.mem_cons_of_mem e he')) with hsame | hsaved
      · change ((dir.apply e).after trace).file name = _ at hsame
        change ((dir.apply e).after trace).file name = _
          ∨ ∃ c, P c ∧ ((dir.apply e).after trace).file name = _
        rw [hsame]
        cases e with
        | saveCluster c =>
            by_cases hname : name = c.clusterName
            · exact Or.inr ⟨c, he, if_pos hname⟩
            · exact Or.inl (if_neg hname)
        | removeClusterYaml clusterName => exact he.elim
        | _ => exact Or.inl rfl
      · exact Or.inr hsaved

section Saves

/-- `configure` saves a cluster without members that is not ready. -/
theorem configure_saves (self : Provisioning) (out : Outside) (loadTopo : Except Exn Value) :
    Triple (SavesOnly Unserving) (fun _ => True) (self.configure out loadTopo) := by
  refine triple_step _ _ _ _ (fun _ _ => triple_step _ _ _ _ (fun topo _ =>
    triple_step _ _ _ _ (fun cluster hcluster => ?_)))
  refine triple_tell_bind _ _ _ _ ?_ (triple_pure _ _ _ trivial)
  have hshape : cluster.state = .notReady ∧ cluster.members = Dict.empty := by
    unfold Provisioning.configured at hcluster
    rcases except_bind_eq_ok _ _ _ hcluster with ⟨hash, _, hcluster⟩
    rw [← Except.ok.inj hcluster]
    exact ⟨rfl, rfl⟩
  refine ⟨fun k n hn => ?_,
    not_serving cluster (by rw [hshape.1]; decide) (by rw [hshape.1]; decide)⟩
  rw [hshape.2, Dict.get?_empty] at hn
  exact nomatch hn

/-- Joining nodes changes the state, unless there are none. -/
theorem keeps_joinNodes (c : Cluster) (l : List (Option Node)) (h : MembersNamed c) :
    Keeps c (joinNodes c l) := by
  induction l generalizing c with
  | nil => exact keeps_refl c h
  | cons o l ih =>
      cases o with
      | none => exact ih c h
      | some n =>
          have hnamed := membersNamed_addMember c n h
          have hstep : Keeps c { c.addMember n.vm.name n with state := .allocated } := by
            exact keeps_of_unserving c _
              ⟨hnamed, not_serving _ (fun h => nomatch h) (fun h => nomatch h)⟩
          exact keeps_trans _ _ _ hstep (ih _ hnamed)

theorem keeps_joined (c : Cluster) (env : EnvironmentComponents) (launched : Launched)
    (h : MembersNamed c) : Keeps c (joined c env launched) := by
  have hlisted : Keeps c
      { c with envs := c.envs ++ [env.env], sharedStorage := launched.sharedStorage } :=
    ⟨h, fun hserving => ⟨hserving, fun _ => rfl, rfl⟩⟩
  exact keeps_trans _ _ _ hlisted (keeps_joinNodes _ launched.nodes h)

theorem allocateEnvs_saves (self : Provisioning) (out : Outside)
    (envs : List EnvironmentComponents) (provisionedClouds : List String) (c₀ c : Cluster)
    (h : Keeps c₀ c) :
    Triple (SavesOnly (Keeps c₀)) (fun _ => True)
      (self.allocateEnvs out envs provisionedClouds c) := by
  induction envs generalizing provisionedClouds c with
  | nil => exact triple_pure _ _ _ trivial
  | cons env envs ih =>
      rw [Provisioning.allocateEnvs]
      refine triple_bind _ (fun _ => True) _ _ _ ⟨fun e he => ?_, fun _ _ => trivial⟩
        (fun launched _ => ?_)
      · exact savesOnly_unwritten _ e
          (allocateEnv_unwritten self out env provisionedClouds c.topoMap e he)
      · have hjoined := keeps_trans _ _ _ h (keeps_joined c env launched h.named)
        by_cases hnone : none ∈ launched.nodes
        · rw [if_pos hnone]
          refine triple_tell_bind _ _ _ _ ?_ (triple_raise _ _ _)
          exact keeps_of_unserving _ _
            ⟨hjoined.named, not_serving _ (fun h => by cases h) (fun h => by cases h)⟩
        · rw [if_neg hnone]
          exact triple_tell_bind _ _ _ _ hjoined (ih _ _ hjoined)

/-- Making the components of a cluster that is not installed clean saves it
    with an empty target. -/
theorem cleanEnvs_saves (self : Uninstaller) (envs : List EnvironmentComponents)
    (c₀ c : Cluster) (hnot : ¬ Serving c) (hnamed : MembersNamed c) :
    Triple (SavesOnly (Keeps c₀)) (fun _ => True) (self.cleanEnvs envs c) := by
  induction envs generalizing c with
  | nil => exact triple_pure _ _ _ trivial
  | cons env envs ih =>
      rw [Uninstaller.cleanEnvs]
      refine triple_step _ _ _ _ (fun _ _ => triple_step _ _ _ _ (fun groups _ => ?_))
      refine triple_bind _ (fun _ => True) _ _ _ ?_ (fun _ _ => ?_)
      · refine triple_mono _ _ _ _ _ (fun _ he => he) (fun _ _ => trivial)
          (triple_parallel _ _ (fun _ => True) _ (fun t ht => ?_))
        rcases List.mem_map.mp ht with ⟨g, _, rfl⟩
        exact triple_ofExcept _ _ _ (fun _ _ => trivial)
      · exact triple_tell_bind _ _ _ _ (keeps_of_unserving _ _ ⟨hnamed, hnot⟩)
          (ih (Uninstaller.cleaned c) hnot hnamed)

theorem stopEnv_saves (self : Installation) (cloud : AbstractCloud) (env : Environment)
    (c₀ c : Cluster) (h : Keeps c₀ c) :
    Triple (SavesOnly (Keeps c₀)) (Keeps c₀) (self.stopEnv cloud env c) := by
  unfold Installation.stopEnv
  by_cases hready : c.state ≠ .ready
  · rw [if_pos hready]
    exact triple_raise _ _ _
  · rw [if_neg hready]
    by_cases hempty : (instancesIn c env).isEmpty = true
    · rw [if_pos hempty]
      exact triple_pure _ _ _ h
    · rw [if_neg hempty]
      have hdown : Keeps c₀ { c with state := .down } := by
        refine keeps_trans _ _ _ h ⟨h.named, fun _ => ⟨Or.inl (not_not.mp hready), ?_, rfl⟩⟩
        exact fun _ => rfl
      refine triple_step _ _ _ _ (fun _ _ => triple_tell_bind _ _ _ _ hdown ?_)
      refine triple_bind _ (fun _ => True) _ _ _ ⟨fun e he => ?_, fun _ _ => trivial⟩
        (fun _ _ => triple_pure _ _ _ hdown)
      exact savesOnly_unwritten _ e (power_unwritten _ e
        ((stopInstancesOf_power cloud (instancesIn c env) (self.outside.schedule env)).trace e he))

end Saves

section Start

/-- A started node is the same machine. -/
theorem restartedNode_machine (cloud : AbstractCloud) (n m : Node)
    (h : restartedNode cloud n = some m) : m.machine = n.machine := by
  unfold restartedNode at h
  cases hdescribe : cloud.api.describe n.vm with
  | error e =>
      rw [hdescribe] at h
      exact nomatch h
  | ok ips =>
      rw [hdescribe] at h
      dsimp only at h
      cases hnode : Node.ofVm cloud.api.sshOptions (restartedVm cloud n ips) with
      | error e =>
          rw [hnode] at h
          exact nomatch h
      | ok node =>
          rw [hnode] at h
          rw [← Option.some.inj h, Node.machine, ofVm_vm _ _ _ hnode]
          rfl

/-- The nodes that come back from starting are those of the instances. -/
theorem startInstancesOf_mem (cloud : AbstractCloud)
    (hcli : createCli (cloudTypeOf cloud.cloudType) = .ok cloud.cli) (σ : Schedule Event)
    (instances : List Node) (nodes : List (Option Node))
    (h : (startInstancesOf cloud σ instances).result = .ok (some nodes)) :
    ∀ m, some m ∈ nodes → ∃ n ∈ instances, restartedNode cloud n = some m := by
  intro m hm
  by_cases hpooled : pooled cloud.cloudType = true
  · rw [startInstancesOf_pooled cloud σ instances hpooled, startInstances_eq] at h
    rcases bind_result_ok _ _ _ h with ⟨l, hl, hlnodes⟩
    rw [← Option.some.inj (Except.ok.inj hlnodes)] at hm
    have hmem : (Except.ok (some m) : Except Exn (Option Node))
        ∈ (instances.map (startInstance cloud)).map Effect.result :=
      (parallel_ok σ _ l hl).mem_iff.mpr (List.mem_map.mpr ⟨_, hm, rfl⟩)
    rcases List.mem_map.mp hmem with ⟨x, hx, hres⟩
    rcases List.mem_map.mp hx with ⟨n, hn, rfl⟩
    refine ⟨n, hn, ?_⟩
    by_cases haws : cloud.cloudType = .aws
    · rw [haws] at hcli
      rcases ((startInstance_aws cloud (Except.ok.inj hcli).symm n).1 _).mp hres with
        ⟨_, m', hm', heq⟩
      rw [hm', ← heq]
    · exact absurd hres (startInstance_unsupported cloud hcli haws hpooled n (some m))
  · exact absurd h
      (startInstancesOf_unpooled cloud σ instances (Bool.eq_false_iff.mpr hpooled) nodes)

/-- Nodes of machines that are members already change no machine. -/
theorem rejoin_machines (c : Cluster) (nodes : List (Option Node)) (hnamed : MembersNamed c)
    (h : ∀ m, some m ∈ nodes →
      (c.members.get? m.vm.name).map Node.machine = some m.machine) :
    MembersNamed (rejoin c nodes) ∧ SameMachines c (rejoin c nodes)
      ∧ (rejoin c nodes).bt = c.bt := by
  induction nodes generalizing c with
  | nil => exact ⟨hnamed, fun _ => rfl, rfl⟩
  | cons o nodes ih =>
      cases o with
      | none => exact ih c hnamed (fun m hm => h m (List.mem_cons_of_mem _ hm))
      | some n =>
          have hsame : SameMachines c (c.addMember n.vm.name n) := by
            intro k
            rw [Cluster.addMember, Dict.get?_set]
            by_cases hk : k = n.vm.name
            · rw [if_pos hk, hk, h n List.mem_cons_self]
              rfl
            · rw [if_neg hk]
          rcases ih (c.addMember n.vm.name n) (membersNamed_addMember c n hnamed)
            (fun m hm => (hsame _).trans (h m (List.mem_cons_of_mem _ hm))) with
            ⟨hnamed', hsame', hbt'⟩
          exact ⟨hnamed', fun k => (hsame' k).trans (hsame k), hbt'⟩

theorem startEnv_saves (self : Installation) (cloud : AbstractCloud) (env : Environment)
    (hcloud : self.cloudOf env = .ok cloud) (c₀ c : Cluster) (h : Keeps c₀ c) :
    Triple (SavesOnly (Keeps c₀)) (Keeps c₀) (self.startEnv cloud env c) := by
  unfold Installation.startEnv
  by_cases hdown : c.state ≠ .down
  · rw [if_pos hdown]
    exact triple_raise _ _ _
  · rw [if_neg hdown]
    refine triple_bind _ (fun started => (startInstancesOf cloud (self.outside.schedule env)
      (instancesIn c env)).result = .ok started) _ _ _ ⟨fun e he => ?_, fun _ hs => hs⟩
      (fun started hstarted => triple_step _ _ _ _ (fun nodes hnodes => ?_))
    · exact savesOnly_unwritten _ e (power_unwritten _ e
        ((startInstancesOf_power cloud (instancesIn c env) (self.outside.schedule env)).trace e he))
    -- only an answer with nodes comes past the check
    · have hsome : started = some nodes := by
        cases started with
        | none => exact nomatch hnodes
        | some l => exact congrArg some (Except.ok.inj hnodes)
      rw [hsome] at hstarted
      -- a restarted node is the machine that the cluster has under its name
      have hmachines : ∀ m, some m ∈ nodes →
          (c.members.get? m.vm.name).map Node.machine = some m.machine := by
        intro m hm
        rcases startInstancesOf_mem cloud (cloudOf_cli self env cloud hcloud) _ _ nodes hstarted m
          hm with ⟨n, hn, hnm⟩
        rcases ((mem_instancesIn c env n).mp hn).1 with ⟨k, hk⟩
        rw [(restartedNode_spec cloud n m hnm).2, h.named k n hk, hk, Option.map_some,
          restartedNode_machine cloud n m hnm]
      rcases rejoin_machines c nodes h.named hmachines with ⟨hnamed, hsame, hbt⟩
      have hready : Keeps c₀ { rejoin c nodes with state := .ready } :=
        keeps_trans _ _ _ h ⟨hnamed, fun _ => ⟨Or.inr (not_not.mp hdown), hsame, hbt⟩⟩
      exact triple_tell_bind _ _ _ _ hready
        (triple_step _ _ _ _ (fun _ _ => triple_pure _ _ _ hready))

/-- `start` and `stop` save what they loaded under the other state. -/
theorem startStop_saves (self : Installation) (onOff : String) (envs : List Environment)
    (c₀ c : Cluster) (h : Keeps c₀ c) :
    Triple (SavesOnly (Keeps c₀)) (Keeps c₀) (self.startStopCluster onOff envs c) := by
  induction envs generalizing c with
  | nil => exact triple_pure _ _ _ h
  | cons env envs ih =>
      rw [Installation.startStopCluster]
      refine triple_bind _ (Keeps c₀) _ _ _ ?_ ih
      refine triple_step _ _ _ _ (fun cloud hcloud => ?_)
      by_cases hstart : onOff = "start"
      · rw [if_pos hstart]
        exact startEnv_saves self cloud env hcloud c₀ c h
      · rw [if_neg hstart]
        by_cases hstop : onOff = "stop"
        · rw [if_pos hstop]
          exact stopEnv_saves self cloud env c₀ c h
        · rw [if_neg hstop]
          exact triple_pure _ _ _ h

end Start

/-- An install that is over: the cluster it loaded, and the target it
    computed. -/
structure Installed where
  cluster : Cluster
  bt : BackendTarget

/-- The install, if it gets to a target. -/
def installed? (self : Installer) (opens : Cluster → Except Exn Unit) (dir : ClustersDir)
    (σ : Schedule Event) : Option Installed :=
  match loadCluster opens dir self.clusterName with
  | .error _ => none
  | .ok c =>
      match (self.collected c σ).result with
      | .ok bt => some ⟨c, bt.getD noTarget⟩
      | .error _ => none

section Install

variable (self : Installer) (opens : Cluster → Except Exn Unit) (dir : ClustersDir)
  (σ : Schedule Event)

/-- An install is over when it computed a target. -/
theorem installed?_isSome_iff :
    (installed? self opens dir σ).isSome = true
      ↔ (self.install opens dir σ).result = .ok () := by
  unfold installed?
  cases hload : loadCluster opens dir self.clusterName with
  | error e =>
      rw [Installer.install, hload, attempt_error _ _ e rfl]
      exact ⟨fun h => (by cases h), fun h => (by cases h)⟩
  | ok c =>
      rw [Installer.install_loaded self c opens dir hload]
      dsimp only
      cases hres : (self.collected c σ).result with
      | ok bt =>
          have hdone : (self.installCluster c σ).result = .ok () := by
            rw [Installer.installCluster, bind_ok _ _ bt hres]
            rfl
          rw [attempt_ok _ _ () hdone]
          exact ⟨fun _ => hdone, fun _ => rfl⟩
      | error e =>
          have hfailed : (self.installCluster c σ).result = .error e := by
            rw [Installer.installCluster, bind_error _ _ e hres]
          rw [attempt_error _ _ e hfailed]
          exact ⟨fun h => (by cases h), fun h => (by cases h)⟩

/-- The file after an install. -/
theorem install_file :
    (dir.after (self.install opens dir σ).trace).file self.clusterName
      = match installed? self opens dir σ with
        | some i => some ({ i.cluster with bt := i.bt, state := .ready } : Cluster).asFile
        | none => dir.file self.clusterName := by
  unfold installed?
  cases hload : loadCluster opens dir self.clusterName with
  | error e =>
      have hnone : (self.install opens dir σ).trace = [] := by
        rw [Installer.install, hload]
        rfl
      rw [hnone]
      rfl
  | ok c =>
      have hunwritten : dir.after (self.collected c σ).trace = dir :=
        after_unwritten _ _ (Installer.collected_unwritten self c σ).trace
      rw [Installer.install_trace self c opens dir hload, Installer.installCluster]
      dsimp only
      cases hres : (self.collected c σ).result with
      | ok bt =>
          rw [bind_ok _ _ bt hres]
          change (dir.after ((self.collected c σ).trace ++ [.saveCluster _])).file _ = _
          rw [ClustersDir.after_append, hunwritten]
          exact if_pos (dir.named _ c (loadCluster_ok opens dir _ c hload)).symm
      | error e => rw [bind_error _ _ e hres, hunwritten]

end Install

/-- The first environment is cleaned: its metrics server can be used, the
    cluster can be grouped, and each of its components cleans up. -/
def CleansFirst (self : Uninstaller) (c : Cluster) : Prop :=
  ∃ env rest ms groups, self.envs = env :: rest
    ∧ initializeServer self.metrics env.regionConfig = .ok ms
    ∧ groupNodesByName self.klasses c = .ok groups
    ∧ ∀ g ∈ groups.values, g.env = env.env.name → self.cleanKlass g = .ok ()

/-- A `clean` that does not get over its first environment does nothing. -/
theorem cleanEnvs_first (self : Uninstaller) (c : Cluster) (hsome : self.envs ≠ [])
    (hfirst : ¬ CleansFirst self c) :
    (self.cleanEnvs self.envs c).trace = []
      ∧ ∃ e, (self.cleanEnvs self.envs c).result = .error e := by
  cases henvs : self.envs with
  | nil => exact absurd henvs hsome
  | cons env rest =>
      rw [Uninstaller.cleanEnvs]
      cases hms : initializeServer self.metrics env.regionConfig with
      | error e => exact ⟨rfl, e, rfl⟩
      | ok ms =>
          rw [bind_ok _ _ ms rfl]
          cases hgroups : groupNodesByName self.klasses c with
          | error e => exact ⟨rfl, e, rfl⟩
          | ok groups =>
              rw [bind_ok _ _ groups rfl]
              dsimp only
              have htrace : (parallel (self.cleanSchedule env.env)
                  ((groups.values.filter (fun g => g.env == env.env.name)).map
                    (fun g => (ofExcept (self.cleanKlass g) : Command Unit)))).trace = [] := by
                refine List.eq_nil_iff_forall_not_mem.mpr (fun e he => ?_)
                rcases (mem_parallel_trace _ _ e).mp he with ⟨t, ht, het⟩
                rcases List.mem_map.mp ht with ⟨g, _, rfl⟩
                exact absurd het List.not_mem_nil
              cases hpool : (parallel (self.cleanSchedule env.env)
                  ((groups.values.filter (fun g => g.env == env.env.name)).map
                    (fun g => (ofExcept (self.cleanKlass g) : Command Unit)))).result with
              | error e =>
                  rw [bind_error _ _ e hpool, htrace]
                  exact ⟨rfl, e, rfl⟩
              | ok l =>
                  -- every component cleaned up, so the environment was cleaned
                  refine absurd ⟨env, rest, ms, groups, henvs, hms, hgroups, ?_⟩ hfirst
                  intro g hg henv
                  have hmem : g ∈ groups.values.filter (fun g => g.env == env.env.name) :=
                    List.mem_filter.mpr ⟨hg, beq_iff_eq.mpr henv⟩
                  rcases (parallel_isOk_iff _ _).mp ⟨l, hpool⟩ _
                    (List.mem_map.mpr ⟨g, hmem, rfl⟩) with ⟨u, hu⟩
                  exact hu

/-- The steps, each with its configuration and what the outside makes of
    it. -/
inductive Step where
  | configure (self : Provisioning) (out : Outside) (loadTopo : Except Exn Value)
  | allocate (self : Provisioning) (out : Outside) (opens : Cluster → Except Exn Unit)
  | make (self : Exporting)
  | install (self : Installer) (opens : Cluster → Except Exn Unit) (σ : Schedule Event)
  | clean (self : Uninstaller) (opens : Cluster → Except Exn Unit)
  | stop (self : Installation) (opens : Cluster → Except Exn Unit)
  | start (self : Installation) (opens : Cluster → Except Exn Unit)

/-- `CloudCommands(cluster_name).start_stop_cluster(on_off)`. -/
def cloudCommand (self : Installation) (onOff : String) (opens : Cluster → Except Exn Unit)
    (dir : ClustersDir) : Command Cluster := do
  let c ← ofExcept (loadCluster opens dir self.clusterName)
  self.startStopCluster onOff c.envs c

namespace Step

/-- The cluster of a step. -/
def clusterName : Step → String
  | .configure self _ _ => self.clusterName
  | .allocate self _ _ => self.clusterName
  | .make self => self.clusterName
  | .install self _ _ => self.clusterName
  | .clean self _ => self.clusterName
  | .stop self _ => self.clusterName
  | .start self _ => self.clusterName

/-- What a step does. `make` registers exporters, and writes no cluster
    file. -/
def trace (dir : ClustersDir) : Step → List Event
  | .configure self out loadTopo => (self.configure out loadTopo).trace
  | .allocate self out opens => (self.allocate out opens dir).trace
  | .make _ => []
  | .install self opens σ => (self.install opens dir σ).trace
  | .clean self opens => (self.clean opens dir).trace
  | .stop self opens => (cloudCommand self "stop" opens dir).trace
  | .start self opens => (cloudCommand self "start" opens dir).trace

end Step

/-- The cluster files, and the last install that was over, if no `clean` was
    over since. -/
structure World where
  dir : ClustersDir
  installed : Option Installed

/-- The last install after a step. -/
def World.installedAfter (w : World) : Step → Option Installed
  | .install self opens σ => (installed? self opens w.dir σ).or w.installed
  | .clean self opens =>
      match (self.clean opens w.dir).result with
      | .ok _ => none
      | .error _ => w.installed
  | _ => w.installed

/-- Taking a step on the cluster with a name. -/
def take (name : String) (w : World) (s : Step) : Option World :=
  if s.clusterName = name then some ⟨w.dir.after (s.trace w.dir), w.installedAfter s⟩ else none

/-- What the state ready of a cluster file means: an install is over on its
    machines, no `clean` is over since, and the target is the one the install
    computed, as a file shows it. -/
def Ready (name : String) (w : World) : Prop :=
  ∀ f, w.dir.file name = some f → f.state = .ready →
    ∃ i, w.installed = some i ∧ SameMachines i.cluster f ∧ f.bt = i.bt.asSaved

/-- A step is no `clean` of a cluster that is ready or down, unless it does not
    get over the first environment. -/
def Spares (w : World) : Step → Prop
  | .clean self opens =>
      ∀ c, loadCluster opens w.dir self.clusterName = .ok c → Serving c →
        self.envs ≠ [] ∧ ¬ CleansFirst self c
  | _ => True

/-- The invariant: the same of a cluster that is down, and members are under
    their names. -/
def Sound (name : String) (w : World) : Prop :=
  ∀ f, w.dir.file name = some f → MembersNamed f
    ∧ (Serving f → ∃ i, w.installed = some i ∧ SameMachines i.cluster f ∧ f.bt = i.bt.asSaved)

section Runs

variable (name : String)

/-- Saves of what keeps the cluster keep the invariant. -/
theorem sound_of_saves (w : World) (installed : Option Installed) (trace : List Event)
    (h : Sound name w)
    (hfresh : w.dir.file name = none → ∀ e ∈ trace, SavesOnly Unserving e)
    (hkept : ∀ c, w.dir.file name = some c → MembersNamed c →
      ∀ e ∈ trace, SavesOnly (Keeps c) e)
    (hinstalled : ∀ c, w.dir.file name = some c → Serving c → installed = w.installed) :
    Sound name ⟨w.dir.after trace, installed⟩ := by
  intro f hf
  cases hfile : w.dir.file name with
  | none =>
      -- without a file only what the trace saves can be there
      rcases file_after _ w.dir trace name (hfresh hfile) with hsame | ⟨c', hother, hsaved⟩
      · have hnone : some f = none := hf.symm.trans (hsame.trans hfile)
        exact nomatch hnone
      · rw [Option.some.inj (hf.symm.trans hsaved)]
        exact ⟨membersNamed_asFile c' hother.1, fun hserving => absurd hserving hother.2⟩
  | some c =>
      rcases h c hfile with ⟨hnamed, hserves⟩
      -- the file is the one before the trace, or the last that it saves
      rcases file_after _ w.dir trace name (hkept c hfile hnamed) with
        hsame | ⟨c', hkeeps, hsaved⟩
      · rw [Option.some.inj (hf.symm.trans (hsame.trans hfile))]
        refine ⟨hnamed, fun hserving => ?_⟩
        change ∃ i, installed = some i ∧ _
        rw [hinstalled c hfile hserving]
        exact hserves hserving
      · rw [Option.some.inj (hf.symm.trans hsaved)]
        refine ⟨membersNamed_asFile c' hkeeps.named, fun hserving => ?_⟩
        rcases hkeeps.serving hserving with ⟨hserving', hsame, hbt⟩
        rcases hserves hserving' with ⟨i, hi, hmachines, htarget⟩
        refine ⟨i, (hinstalled c hfile hserving').trans hi, fun k => ?_, ?_⟩
        · exact (sameMachines_asFile c' k).trans ((hsame k).trans (hmachines k))
        · change c'.bt.asSaved = _
          rw [hbt, htarget, asSaved_asSaved]

/-- Without a file there is nothing to load. -/
theorem loadCluster_fresh (opens : Cluster → Except Exn Unit) (dir : ClustersDir)
    (h : dir.file name = none) : ∃ e, loadCluster opens dir name = .error e := by
  rw [loadCluster, h]
  exact ⟨_, rfl⟩

/-- What a command saves that begins with loading the cluster. -/
theorem loaded_saves {α : Type} (opens : Cluster → Except Exn Unit) (dir : ClustersDir)
    (body : Cluster → Command α) (P : Cluster → Prop)
    (h : ∀ c, loadCluster opens dir name = .ok c → ∀ e ∈ (body c).trace, SavesOnly P e) :
    ∀ e ∈ (ofExcept (loadCluster opens dir name) >>= body).trace, SavesOnly P e :=
  (triple_step _ (fun _ => True) _ _ (fun c hc => ⟨h c hc, fun _ _ => trivial⟩)).trace

/-- A step that begins with loading the cluster, and then keeps it, keeps the
    invariant. -/
theorem sound_of_loaded {α : Type} (w : World) (opens : Cluster → Except Exn Unit)
    (body : Cluster → Command α) (installed : Option Installed) (h : Sound name w)
    (hbody : ∀ c, MembersNamed c → ∀ e ∈ (body c).trace, SavesOnly (Keeps c) e)
    (hinstalled : ∀ c, w.dir.file name = some c → Serving c → installed = w.installed) :
    Sound name
      ⟨w.dir.after (ofExcept (loadCluster opens w.dir name) >>= body).trace, installed⟩ := by
  refine sound_of_saves name w installed _ h (fun hfresh => ?_) (fun c hfile hnamed => ?_)
    hinstalled
  · rcases loadCluster_fresh name opens w.dir hfresh with ⟨e, he⟩
    exact loaded_saves name opens w.dir body _ (fun c hc => (nomatch he.symm.trans hc))
  · refine loaded_saves name opens w.dir body _ (fun c' hc' => ?_)
    rw [Option.some.inj ((loadCluster_ok opens w.dir name c' hc').symm.trans hfile)]
    exact hbody c hnamed

/-- An install that is over installs what it loaded. -/
theorem sound_install (w : World) (self : Installer) (opens : Cluster → Except Exn Unit)
    (σ : Schedule Event) (h : Sound self.clusterName w) :
    Sound self.clusterName
      ⟨w.dir.after (self.install opens w.dir σ).trace,
        (installed? self opens w.dir σ).or w.installed⟩ := by
  intro f hf
  have hfile := install_file self opens w.dir σ
  -- an install that did not end leaves the file as it was
  cases hdone : installed? self opens w.dir σ with
  | none =>
      rw [hdone] at hfile
      exact h f (hfile.symm.trans hf)
  | some i =>
      rw [hdone] at hfile
      rw [Option.some.inj (hf.symm.trans hfile)]
      have hload : w.dir.file self.clusterName = some i.cluster := by
        unfold installed? at hdone
        cases hload : loadCluster opens w.dir self.clusterName with
        | error e =>
            rw [hload] at hdone
            exact nomatch hdone
        | ok c =>
            rw [hload] at hdone
            dsimp only at hdone
            cases hres : (self.collected c σ).result with
            | error e =>
                rw [hres] at hdone
                exact nomatch hdone
            | ok bt =>
                rw [hres] at hdone
                rw [← Option.some.inj hdone]
                exact loadCluster_ok opens w.dir _ c hload
      have hnamed := (h i.cluster hload).1
      exact ⟨membersNamed_asFile _ hnamed, fun _ => ⟨i, rfl, sameMachines_asFile _, rfl⟩⟩

/-- A `clean` that spares the cluster keeps the invariant. -/
theorem sound_clean (w : World) (self : Uninstaller) (opens : Cluster → Except Exn Unit)
    (h : Sound self.clusterName w) (hspares : Spares w (.clean self opens)) :
    Sound self.clusterName
      ⟨w.dir.after (self.clean opens w.dir).trace, w.installedAfter (.clean self opens)⟩ := by
  have hclean : self.clean opens w.dir
      = ⟨(ofExcept (loadCluster opens w.dir self.clusterName)
            >>= self.cleanEnvs self.envs).trace,
          (ofExcept (loadCluster opens w.dir self.clusterName)
            >>= self.cleanEnvs self.envs).result.mapError installError⟩ :=
    attempt_raise _ _
  by_cases hserving : ∃ c, w.dir.file self.clusterName = some c ∧ Serving c
  · -- the cluster is installed: nothing is saved, and the command raises
    rcases hserving with ⟨c, hfile, hserving⟩
    have hspared : (self.clean opens w.dir).trace = []
        ∧ ∃ e, (self.clean opens w.dir).result = .error e := by
      rw [hclean]
      cases hload : loadCluster opens w.dir self.clusterName with
      | error e => exact ⟨rfl, _, rfl⟩
      | ok c' =>
          have hc : c' = c :=
            Option.some.inj ((loadCluster_ok opens w.dir _ c' hload).symm.trans hfile)
          rcases hspares c' hload (hc ▸ hserving) with ⟨hsome, hfirst⟩
          rcases cleanEnvs_first self c' hsome hfirst with ⟨htrace, e, he⟩
          rw [bind_ok _ _ c' rfl, htrace]
          refine ⟨rfl, installError e, ?_⟩
          rw [he]
          rfl
    rcases hspared with ⟨htrace, e, he⟩
    rw [htrace, World.installedAfter, he]
    exact h
  · rw [hclean]
    refine sound_of_saves _ w _ _ h (fun hfresh => ?_) (fun c hfile hnamed => ?_)
      (fun c hfile hc => absurd ⟨c, hfile, hc⟩ hserving)
    · rcases loadCluster_fresh _ opens w.dir hfresh with ⟨e, he⟩
      exact loaded_saves _ opens w.dir _ _ (fun c hc => (nomatch he.symm.trans hc))
    · refine loaded_saves _ opens w.dir _ _ (fun c' hload => ?_)
      rw [Option.some.inj ((loadCluster_ok opens w.dir _ c' hload).symm.trans hfile)]
      exact (cleanEnvs_saves self self.envs c c (fun hc => hserving ⟨c, hfile, hc⟩) hnamed).trace

/-- A step that spares the cluster keeps the invariant. -/
theorem take_keeps (w w' : World) (s : Step) (h : Sound name w) (hspares : Spares w s)
    (htake : take name w s = some w') : Sound name w' := by
  unfold take at htake
  -- a step for another cluster leaves this one's file
  by_cases hname : s.clusterName = name
  · rw [if_pos hname] at htake
    rw [← Option.some.inj htake]
    cases s with
    | configure self out loadTopo =>
        have hsaves := (configure_saves self out loadTopo).trace
        exact sound_of_saves name w _ _ h (fun _ => hsaves)
          (fun c _ _ e he => savesOnly_mono _ _ (fun c' => keeps_of_unserving c c') e (hsaves e he))
          (fun _ _ _ => rfl)
    | allocate self out opens =>
        have hload : self.clusterName = name := hname
        subst hload
        refine sound_of_loaded _ w opens _ _ h (fun c hnamed e he => ?_) (fun _ _ _ => rfl)
        rw [asXbench_trace] at he
        exact (allocateEnvs_saves self out self.envs [] c c (keeps_refl c hnamed)).trace e he
    | make self => exact h
    | install self opens σ =>
        have hload : self.clusterName = name := hname
        subst hload
        exact sound_install w self opens σ h
    | clean self opens =>
        have hload : self.clusterName = name := hname
        subst hload
        exact sound_clean w self opens h hspares
    | stop self opens =>
        have hload : self.clusterName = name := hname
        subst hload
        exact sound_of_loaded _ w opens _ _ h (fun c hnamed =>
          (startStop_saves self "stop" c.envs c c (keeps_refl c hnamed)).trace) (fun _ _ _ => rfl)
    | start self opens =>
        have hload : self.clusterName = name := hname
        subst hload
        exact sound_of_loaded _ w opens _ _ h (fun c hnamed =>
          (startStop_saves self "start" c.envs c c (keeps_refl c hnamed)).trace) (fun _ _ _ => rfl)
  · rw [if_neg hname] at htake
    exact nomatch htake

/-- Without a `clean` of an installed cluster, ready means installed after
    every run, and so along it. -/
theorem ready_installed (dir : ClustersDir) (hfresh : dir.file name = none) (steps : List Step)
    (w : World) (hspares : Transition.Meets (take name) Spares ⟨dir, none⟩ steps)
    (hrun : Transition.run (take name) ⟨dir, none⟩ steps = some w) : Ready name w := by
  have hstart : Sound name ⟨dir, none⟩ := by
    intro f hf
    have hnone : dir.file name = some f := hf
    rw [hfresh] at hnone
    cases hnone
  have hsound := Transition.run_invariant (take name) Spares (Sound name)
    (fun w s w' hw hs htake => take_keeps name w w' s hw hs htake) steps _ w hstart hspares hrun
  exact fun f hf hready => (hsound f hf).2 (Or.inl hready)

end Runs

section Examples

/-- An AWS account where an instance has an identifier, and the key file is
    there. -/
def ec2Api : CloudApi :=
  { keylessApi with sshOptions := obedientApi.sshOptions }

def ec2 : Outside :=
  ⟨fun _ _ => ec2Api, fun _ => Schedule.sequential Event⟩

/-- The software of one driver, which is also what to connect to. -/
def driverSoftware : Installer where
  clusterName := "dev"
  envs := [awsEnvironment]
  extraImplParams := ⟨Dict.empty, plain_empty⟩
  klasses := fun klass => .ok ⟨klass, false, false⟩
  components := { shippedComponents with install := fun _ nodes _ => .ok (some (targetOf nodes)) }
  metrics := noMetrics
  configureSchedule := fun _ => .sequential Event

def driverExporters : Exporting where
  toInstaller := driverSoftware
  classOf := fun _ => .driver
  config := fun _ => ⟨true, 9290⟩
  prepare := fun _ => .ok ()
  sent := fun _ _ _ => .ok ()
  pool := fun _ => .sequential Registration

/-- Provisioning one driver, and then installing it. -/
def provisioned : List Step :=
  [.configure oneDriver ec2 (.ok (.list [.str "driver"])),
    .allocate oneDriver ec2 (fun _ => .ok ()), .make driverExporters,
    .install driverSoftware (fun _ => .ok ()) (.sequential Event)]

/-- The driver once it is launched. -/
def launchedDriver : Node :=
  ⟨{ driverVm none with sshUser := "root" }⟩

def allocatedDriver : Cluster :=
  { oneDriverCluster with
    state := .allocated
    envs := [awsEnvironment.env]
    members := Dict.ofList [("driver-0", launchedDriver)] }

def installedDriver (state : ClusterState) : Cluster :=
  { allocatedDriver with state := state, bt := targetOf (.one launchedDriver) }

theorem take_eq (name : String) (w : World) (s : Step) (trace : List Event)
    (installed : Option Installed) (hname : s.clusterName = name) (htrace : s.trace w.dir = trace)
    (hinstalled : w.installedAfter s = installed) :
    take name w s = some ⟨w.dir.after trace, installed⟩ := by
  rw [take, if_pos hname, htrace, hinstalled]

def onceConfigured : ClustersDir :=
  emptyDir.after [.saveCluster oneDriverCluster]

def onceAllocated : ClustersDir :=
  onceConfigured.after [.createInstance "env_0" (some "i-1"), .saveCluster allocatedDriver]

def driverInstall : Installed :=
  ⟨allocatedDriver.asFile, targetOf (.one launchedDriver)⟩

def onceInstalled : ClustersDir :=
  onceAllocated.after
    [.configureComponent ⟨"driver.Sysbench", false, false⟩ (.one launchedDriver),
      .installComponent ⟨"driver.Sysbench", false, false⟩ (.one launchedDriver),
      .saveCluster (installedDriver .ready)]

theorem run_provisioned (steps : List Step) :
    Transition.run (take "dev") ⟨emptyDir, none⟩ (provisioned ++ steps)
      = Transition.run (take "dev") ⟨onceInstalled, some driverInstall⟩ steps := by
  have hconfigure : take "dev" ⟨emptyDir, none⟩ (.configure oneDriver ec2
      (.ok (.list [.str "driver"]))) = some ⟨onceConfigured, none⟩ :=
    take_eq _ _ _ _ _ rfl rfl rfl
  have hallocate : take "dev" ⟨onceConfigured, none⟩ (.allocate oneDriver ec2 (fun _ => .ok ()))
      = some ⟨onceAllocated, none⟩ := take_eq _ _ _ _ _ rfl rfl rfl
  have hmake : take "dev" ⟨onceAllocated, none⟩ (.make driverExporters)
      = some ⟨onceAllocated, none⟩ := take_eq _ _ _ _ _ rfl rfl rfl
  have hinstall : take "dev" ⟨onceAllocated, none⟩ (.install driverSoftware (fun _ => .ok ())
      (.sequential Event)) = some ⟨onceInstalled, some driverInstall⟩ :=
    take_eq _ _ _ _ _ rfl rfl rfl
  rw [Transition.run_append]
  have hrun : Transition.run (take "dev") ⟨emptyDir, none⟩ provisioned
      = some ⟨onceInstalled, some driverInstall⟩ := by
    refine (Transition.run_cons _ _ _ _ _).mpr ⟨_, hconfigure, ?_⟩
    refine (Transition.run_cons _ _ _ _ _).mpr ⟨_, hallocate, ?_⟩
    refine (Transition.run_cons _ _ _ _ _).mpr ⟨_, hmake, ?_⟩
    exact (Transition.run_cons _ _ _ _ _).mpr ⟨_, hinstall, rfl⟩
  rw [hrun, Option.bind_some]

def driverInstallation : Installation :=
  { devInstallation with outside := ec2 }

def onceStopped : ClustersDir :=
  onceInstalled.after [.saveCluster (installedDriver .down), .stopInstance launchedDriver.vm]

def onceStarted : ClustersDir :=
  onceStopped.after [.startInstance launchedDriver.vm, .saveCluster (installedDriver .ready)]

/-- A driver that was stopped and started is ready, and is installed. -/
theorem restarted_ready : (onceStarted.file "dev").map Cluster.state = some .ready
    ∧ Ready "dev" ⟨onceStarted, some driverInstall⟩ := by
  have hstop : take "dev" ⟨onceInstalled, some driverInstall⟩
      (.stop driverInstallation (fun _ => .ok ())) = some ⟨onceStopped, some driverInstall⟩ :=
    take_eq _ _ _ _ _ rfl rfl rfl
  have hstart : take "dev" ⟨onceStopped, some driverInstall⟩
      (.start driverInstallation (fun _ => .ok ())) = some ⟨onceStarted, some driverInstall⟩ :=
    take_eq _ _ _ _ _ rfl rfl rfl
  refine ⟨rfl, ready_installed "dev" emptyDir rfl (provisioned ++ [.stop driverInstallation
    (fun _ => .ok ()), .start driverInstallation (fun _ => .ok ())]) _ ?_ ?_⟩
  · exact ⟨trivial, fun _ _ => ⟨trivial, fun _ _ => ⟨trivial, fun _ _ => ⟨trivial, fun _ _ =>
      ⟨trivial, fun _ _ => ⟨trivial, fun _ _ => trivial⟩⟩⟩⟩⟩⟩
  · rw [run_provisioned]
    refine (Transition.run_cons _ _ _ _ _).mpr ⟨_, hstop, ?_⟩
    exact (Transition.run_cons _ _ _ _ _).mpr ⟨_, hstart, rfl⟩

def onceCleaned : ClustersDir :=
  onceInstalled.after [.saveCluster (Uninstaller.cleaned (installedDriver .ready))]

/-- After a `clean` the state is still ready, and nothing is installed. -/
theorem cleaned_ready : ¬ ∀ (name : String) (dir : ClustersDir) (steps : List Step) (w : World),
    dir.file name = none → Transition.run (take name) ⟨dir, none⟩ steps = some w →
    Ready name w := by
  intro h
  have hclean : take "dev" ⟨onceInstalled, some driverInstall⟩ (.clean ⟨driverSoftware,
      fun _ => .ok (), fun _ => .sequential Event⟩ (fun _ => .ok ())) = some ⟨onceCleaned, none⟩ :=
    take_eq _ _ _ _ _ rfl rfl rfl
  have hrun : Transition.run (take "dev") ⟨emptyDir, none⟩ (provisioned ++ [.clean ⟨driverSoftware,
      fun _ => .ok (), fun _ => .sequential Event⟩ (fun _ => .ok ())])
      = some ⟨onceCleaned, none⟩ := by
    rw [run_provisioned]
    exact (Transition.run_cons _ _ _ _ _).mpr ⟨_, hclean, rfl⟩
  rcases h "dev" emptyDir _ _ rfl hrun _ rfl rfl with ⟨i, hi, _⟩
  exact nomatch hi

end Examples

end Lifecycle

end Xbench
