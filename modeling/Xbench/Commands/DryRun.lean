import Mathlib.Tactic.Linarith
import Xbench.Commands.Steps
import Xbench.Commands.Confinement

/-!
# Dry Runs

When a step that is constructed for a dry run changes nothing.

`clean` and `nuke` look at the flag where they terminate instances, and
nowhere else. Both take the cluster off the metrics servers first. `clean`
saves the cluster before its loop and removes the file after it, so that a dry
run that comes to its end has lost the record of machines that still run;
`nuke` removes the file when the cloud has no interface to ask. The steps of
provisioning have no dry run: they do what they do.

`unchanged_iff` says for each step what has to be in its way. A step changes
things in one direction only, but for the end of `clean`: targets are only
registered or only taken off, machines only come into being, and a file goes
to one content. `distance` measures how far a step has come, so nothing is
changed in the end exactly when no event changes anything, and the exact rules
for triples turn that into what is asked of the inputs and of the answers.

## Main definitions

* `Inventory.distance`: How far a step has come.
* `Inventory.Unlisted`: A server has no targets of a cluster.
* `DeProvisioning.Stops`: The loop of `clean` raises in time.
* `Provisioning.TurnedDown`: An environment is turned down.
* `Instrumenting.MakesKnown`, `Instrumenting.ConfiguresKnown`,
  `Instrumenting.InstallsKnown`: The registrations are there already.
* `Instrumenting.CleansNothing`: There is nothing to take off.
* `Operation.HoldsWhen`: When a step changes nothing.

## Theorems

* `after_eq_self_iff`: Changes in one direction that come to nothing.
* `clean_unchanged_iff`, `nuke_unchanged_iff`: Deprovisioning.
* `configure_unchanged_iff`, `allocate_unchanged_iff`: Configuring and
  allocating.
* `make_unchanged_iff`, `install_unchanged_iff`, `uninstall_unchanged_iff`: The
  steps that register exporters and take them off.
* `unchanged_iff`: When a dry run changes nothing.
* `dry_clean_forgets`: A dry run that does.
-/

namespace Xbench

open Effect

open Cluster (Klass GroupNodes Group groupNodesByName)

section Directory

theorem save_eq_self_iff (dir : ClustersDir) (c : Cluster) :
    dir.save c = dir ↔ dir.file c.clusterName = some c.asFile := by
  constructor
  · intro h
    rw [← h]
    exact if_pos rfl
  · intro h
    rcases dir with ⟨file, named⟩
    have hfile : (fun name => if name = c.clusterName then some c.asFile else file name)
        = file := by
      funext name
      by_cases hname : name = c.clusterName
      · rw [if_pos hname, hname]
        exact h.symm
      · rw [if_neg hname]
    unfold ClustersDir.save
    simp only [hfile]

theorem remove_eq_self_iff (dir : ClustersDir) (clusterName : String) :
    dir.remove clusterName = dir ↔ dir.file clusterName = none := by
  constructor
  · intro h
    rw [← h]
    exact if_pos rfl
  · intro h
    rcases dir with ⟨file, named⟩
    have hfile : (fun name => if name = clusterName then none else file name) = file := by
      funext name
      by_cases hname : name = clusterName
      · rw [if_pos hname, hname]
        exact h.symm
      · rw [if_neg hname]
    unfold ClustersDir.remove
    simp only [hfile]

end Directory

namespace Inventory

variable (s : Inventory)

@[simp] theorem apply_save_iff (c : Cluster) :
    s.apply (.event (.saveCluster c)) = s ↔ s.dir.file c.clusterName = some c.asFile := by
  rw [← save_eq_self_iff]
  exact ⟨congrArg Inventory.dir, fun h => by rw [apply, happen, h]⟩

@[simp] theorem apply_remove_iff (clusterName : String) :
    s.apply (.event (.removeClusterYaml clusterName)) = s ↔ s.dir.file clusterName = none := by
  rw [← remove_eq_self_iff]
  exact ⟨congrArg Inventory.dir, fun h => by rw [apply, happen, h]⟩

@[simp] theorem apply_deregisterCluster_iff (server dir clusterName : String) :
    s.apply (.event (.deregisterCluster server dir clusterName)) = s
      ↔ ∀ t ∈ s.targets, t.matches server dir clusterName = false := by
  have hfilter : s.targets.filter (fun t => !t.matches server dir clusterName) = s.targets
      ↔ ∀ t ∈ s.targets, t.matches server dir clusterName = false := by
    simp only [List.filter_eq_self, Bool.not_eq_true']
  rw [← hfilter]
  exact ⟨congrArg Inventory.targets, fun h => by rw [apply, happen, h]⟩

@[simp] theorem apply_register_iff (t : Target) :
    s.apply (.register t) = s ↔ t ∈ s.targets := by
  rw [apply]
  by_cases ht : t ∈ s.targets
  · simp [ht]
  · rw [if_neg ht]
    refine ⟨fun h => ?_, fun h => absurd h ht⟩
    have htargets := congrArg Inventory.targets h
    simp at htargets

@[simp] theorem apply_deregister_iff (t : Target) :
    s.apply (.deregister t) = s ↔ t ∉ s.targets := by
  have hfilter : s.targets.filter (fun t' => decide (t' ≠ t)) = s.targets ↔ t ∉ s.targets := by
    simp only [List.filter_eq_self, decide_eq_true_eq]
    exact ⟨fun h ht => h t ht rfl, fun h t' ht' heq => h (heq ▸ ht')⟩
  rw [← hfilter]
  exact ⟨congrArg Inventory.targets, fun h => by rw [apply, h]⟩

@[simp] theorem apply_createInstance_iff (env : String) (id : Option String) :
    s.apply (.event (.createInstance env id)) = s ↔ False := by
  refine ⟨fun h => ?_, False.elim⟩
  have hmachines := congrArg Inventory.machines h
  simp [apply, happen] at hmachines

@[simp] theorem apply_createVolume_iff (id : String) :
    s.apply (.event (.createVolume id)) = s ↔ False := by
  refine ⟨fun h => ?_, False.elim⟩
  have hvolumes := congrArg Inventory.volumes h
  simp [apply, happen] at hvolumes

open Classical in
/-- Is a file what it is to be? -/
noncomputable def arrived (clusterName : String) (file : Option Cluster) (dir : ClustersDir) : ℤ :=
  if dir.file clusterName = file then 1 else 0

/-- How far along a way the inventory is: the way of the machines, of the
    volumes, of the targets up or down, and of one file to what it is to be. -/
noncomputable def distance (k : ℤ) (clusterName : String) (file : Option Cluster)
    (s : Inventory) : ℤ :=
  s.machines.length + s.volumes.length + k * s.targets.length + arrived clusterName file s.dir

/-- A change that either does nothing or goes along that way. -/
def OneWay (k : ℤ) (clusterName : String) (file : Option Cluster) (ch : Change) : Prop :=
  ∀ s : Inventory, s.apply ch = s ∨
    distance k clusterName file s < distance k clusterName file (s.apply ch)

theorem oneWay_save (k : ℤ) (c : Cluster) :
    OneWay k c.clusterName (some c.asFile) (.event (.saveCluster c)) := by
  intro s
  by_cases hfile : s.dir.file c.clusterName = some c.asFile
  · exact Or.inl ((apply_save_iff s c).mpr hfile)
  · right
    have hbefore : arrived c.clusterName (some c.asFile) s.dir = 0 := if_neg hfile
    have hafter : arrived c.clusterName (some c.asFile) (s.dir.save c) = 1 := if_pos (if_pos rfl)
    simp only [distance, apply, happen, hbefore, hafter]
    linarith

theorem oneWay_remove (k : ℤ) (clusterName : String) :
    OneWay k clusterName none (.event (.removeClusterYaml clusterName)) := by
  intro s
  by_cases hfile : s.dir.file clusterName = none
  · exact Or.inl ((apply_remove_iff s clusterName).mpr hfile)
  · right
    have hbefore : arrived clusterName none s.dir = 0 := if_neg hfile
    have hafter : arrived clusterName none (s.dir.remove clusterName) = 1 := if_pos (if_pos rfl)
    simp only [distance, apply, happen, hbefore, hafter]
    linarith

theorem oneWay_register (clusterName : String) (file : Option Cluster) (t : Target) :
    OneWay 1 clusterName file (.register t) := by
  intro s
  by_cases ht : t ∈ s.targets
  · exact Or.inl ((apply_register_iff s t).mpr ht)
  · right
    have happly : s.apply (.register t) = { s with targets := s.targets ++ [t] } := if_neg ht
    simp only [distance, happly, List.length_append, List.length_singleton]
    push_cast
    linarith

/-- Targets that are taken off are fewer, or are as they were. -/
theorem filter_fewer (p : Target → Bool) (l : List Target) :
    l.filter p = l ∨ (l.filter p).length < l.length := by
  rcases Nat.lt_or_eq_of_le (List.length_filter_le p l) with hlt | heq
  · exact Or.inr hlt
  · exact Or.inl (List.filter_sublist.eq_of_length heq)

theorem oneWay_deregister (clusterName : String) (file : Option Cluster) (t : Target) :
    OneWay (-1) clusterName file (.deregister t) := by
  intro s
  rcases filter_fewer (fun t' => decide (t' ≠ t)) s.targets with hsame | hfewer
  · left
    rw [apply, hsame]
  · right
    have hcount : ((s.targets.filter (fun t' => decide (t' ≠ t))).length : ℤ)
        < s.targets.length := by exact_mod_cast hfewer
    simp only [distance, apply]
    linarith

theorem oneWay_deregisterCluster (clusterName : String) (file : Option Cluster)
    (server dir name : String) :
    OneWay (-1) clusterName file (.event (.deregisterCluster server dir name)) := by
  intro s
  rcases filter_fewer (fun t => !t.matches server dir name) s.targets with hsame | hfewer
  · left
    rw [apply, happen, hsame]
  · right
    have hcount : ((s.targets.filter (fun t => !t.matches server dir name)).length : ℤ)
        < s.targets.length := by exact_mod_cast hfewer
    simp only [distance, apply, happen]
    linarith

/-- What a launch does goes one way. -/
theorem oneWay_launch (k : ℤ) (clusterName : String) (file : Option Cluster) (env : String)
    (e : Event) (h : LaunchEvent env e) : OneWay k clusterName file (.event e) := by
  intro s
  cases e with
  | createInstance env' id =>
      right
      simp only [distance, apply, happen, List.length_append, List.length_singleton]
      push_cast
      linarith
  | createVolume id =>
      right
      simp only [distance, apply, happen, List.length_append, List.length_singleton]
      push_cast
      linarith
  | writeLockFile file => exact Or.inl rfl
  | _ => exact h.elim

/-- Changes that go one way leave the inventory as it was when each of them
    does. -/
theorem after_eq_self_iff (k : ℤ) (clusterName : String) (file : Option Cluster)
    (trace : List Change) (h : ∀ ch ∈ trace, OneWay k clusterName file ch) :
    s.after trace = s ↔ ∀ ch ∈ trace, s.apply ch = s :=
  Transition.foldl_eq_self_iff (distance k clusterName file) apply trace
    (fun t ch hch => h ch hch t) s

end Inventory

section Servers

/-- Taking a cluster off a metrics server: the server, and what came of it. -/
def MetricsServer.deregistration (api : MetricsApi) (ms : MetricsServer) (clusterName : String) :
    Option (String × SshRun) :=
  ms.sshClient.map (fun host =>
    (host, api.run host ("rm " ++ ms.remoteTargetPath ++ "/" ++ clusterName ++ "*.json")))

/-- It raises nothing. -/
def MetricsServer.deregisters (api : MetricsApi) (ms : MetricsServer) (clusterName : String) :
    Prop :=
  ∀ host done, ms.deregistration api clusterName = some (host, done) → done.outcome = .ok ()

/-- The server had no targets of the cluster, or was not reached. -/
def Inventory.Unlisted (s : Inventory) (api : MetricsApi) (ms : MetricsServer)
    (clusterName : String) : Prop :=
  ∀ host done, ms.deregistration api clusterName = some (host, done) → done.ran = true →
    ∀ t ∈ s.targets, t.matches host ms.remoteTargetPath clusterName = false

theorem triple_deregisterCluster_iff (E : Event → Prop) (Q : Unit → Prop) (api : MetricsApi)
    (ms : MetricsServer) (clusterName : String) :
    Triple E Q (ms.deregisterCluster api clusterName) ↔
      (∀ host done, ms.deregistration api clusterName = some (host, done) → done.ran = true →
        E (.deregisterCluster host ms.remoteTargetPath clusterName))
      ∧ (ms.deregisters api clusterName → Q ()) := by
  unfold MetricsServer.deregisterCluster MetricsServer.deregisters MetricsServer.deregistration
  cases ms.sshClient with
  | none => simp [triple_pure_iff]
  | some host =>
      dsimp only
      by_cases hran : (api.run host
          ("rm " ++ ms.remoteTargetPath ++ "/" ++ clusterName ++ "*.json")).ran = true
      · rw [if_pos hran, triple_tell_bind_iff, triple_ofExcept_iff]
        simp [hran, Unique.forall_iff]
      · rw [if_neg hran, triple_ofExcept_iff]
        simp [hran, Unique.forall_iff]

end Servers

section Deprovisioning

variable (self : DeProvisioning)

/-- What `clean` asks for in an environment before it takes the cluster off the
    metrics server. -/
def DeProvisioning.reach (env : Environment) : Except Exn MetricsServer := do
  let config ← self.loadCloud env.cloud
  let regionConfig ← regionGet config env.region
  let ms ← initializeServer self.metrics regionConfig
  let _ ← createCloudFromStr (self.outside.clouds env) env.cloud self.clusterName regionConfig
  .ok ms

/-- What `nuke` asks for before it does. -/
def DeProvisioning.nukeServer (cloud cloudRegion : String) : Except Exn MetricsServer := do
  let config ← self.loadCloud cloud
  let regionConfig ← regionGet config cloudRegion
  initializeServer self.metrics regionConfig

/-- The loop of `clean` raises before it is over, at a server or ahead of it,
    and up to there no server had targets of the cluster. -/
def DeProvisioning.Stops (s : Inventory) (clusterName : String) : List Environment → Prop
  | [] => False
  | env :: rest => ∀ ms, self.reach env = .ok ms → s.Unlisted self.metrics ms clusterName
      ∧ (ms.deregisters self.metrics clusterName → DeProvisioning.Stops s clusterName rest)

/-- In a dry run an environment is only taken off its metrics server. -/
theorem triple_cleanEnv_iff (E : Event → Prop) (Q : Unit → Prop) (c : Cluster)
    (env : Environment) (hdry : self.dryRun = true) :
    Triple E Q (self.cleanEnv c env) ↔ ∀ ms, self.reach env = .ok ms →
      Triple E Q (ms.deregisterCluster self.metrics c.clusterName) := by
  unfold DeProvisioning.cleanEnv DeProvisioning.reach
  rw [hdry]
  simp only [triple_bind_iff, triple_ofExcept_iff, triple_pure_iff, Bool.not_true,
    Bool.and_false, if_true, Bool.false_eq_true, if_false, except_bind_ok_iff, Except.ok.injEq]
  constructor
  · rintro h ms ⟨config, hconfig, regionConfig, hregion, ms', hms, cloud, hcloud, rfl⟩
    exact h config hconfig regionConfig hregion ms' hms cloud hcloud
  · intro h config hconfig regionConfig hregion ms hms cloud hcloud
    exact h ms ⟨config, hconfig, regionConfig, hregion, ms, hms, cloud, hcloud, rfl⟩

/-- Events that leave an inventory as it is. -/
def Inventory.Spared (s : Inventory) (e : Event) : Prop :=
  s.apply (.event e) = s

theorem triple_cleanEnvs_iff (s : Inventory) (c : Cluster) (envs : List Environment)
    (hdry : self.dryRun = true) :
    Triple s.Spared (fun _ => False) (self.cleanEnvs c envs) ↔ self.Stops s c.clusterName envs := by
  induction envs with
  | nil => exact triple_pure_iff _ _ _
  | cons env envs ih =>
      rw [DeProvisioning.cleanEnvs, triple_bind_iff, triple_cleanEnv_iff self _ _ c env hdry]
      simp only [triple_deregisterCluster_iff, ih, Inventory.Spared,
        Inventory.apply_deregisterCluster_iff]
      exact Iff.rfl

/-- Up to its end, `clean` only takes the cluster off servers. -/
theorem cleanEnvs_oneWay (file : Option Cluster) (c : Cluster) (envs : List Environment)
    (hdry : self.dryRun = true) :
    Triple (fun e => Inventory.OneWay (-1) c.clusterName file (.event e)) (fun _ => True)
      (self.cleanEnvs c envs) := by
  induction envs with
  | nil => exact triple_pure _ _ () trivial
  | cons env envs ih =>
      rw [DeProvisioning.cleanEnvs, triple_bind_iff, triple_cleanEnv_iff self _ _ c env hdry]
      intro ms _
      exact (triple_deregisterCluster_iff _ _ _ _ _).mpr
        ⟨fun host done _ _ => Inventory.oneWay_deregisterCluster _ _ _ _ _, fun _ => ih⟩

theorem after_events (s : Inventory) (trace : List Event) :
    (s.after (trace.map Change.event)).dir = s.dir.after trace := by
  induction trace generalizing s with
  | nil => rfl
  | cons e trace ih =>
      have hdir : (s.happen e).dir = s.dir.apply e := by
        cases e with
        | _ => rfl
      rw [List.map_cons]
      change ((s.happen e).after (trace.map Change.event)).dir = (s.dir.apply e).after trace
      rw [ih, hdir]

theorem spared_iff (s : Inventory) (clusterName : String) (file : Option Cluster) (k : ℤ)
    (trace : List Event) (h : ∀ e ∈ trace, Inventory.OneWay k clusterName file (.event e)) :
    s.after (trace.map Change.event) = s ↔ ∀ e ∈ trace, s.Spared e := by
  rw [s.after_eq_self_iff k clusterName file, List.forall_mem_map]
  · exact Iff.rfl
  · exact List.forall_mem_map.mpr h

/-- A dry `clean` of the cluster in a file changes nothing when the file is as
    it would be saved, and `clean` raises before its end without meeting a
    target of the cluster. -/
theorem clean_unchanged_iff (s : Inventory) (c : Cluster) (hdry : self.dryRun = true)
    (hfile : s.dir.file self.clusterName = some c) :
    s.after ((self.clean c).trace.map Change.event) = s ↔
      c.asFile = c ∧ (self.archive = .ok () → self.Stops s c.clusterName c.envs) := by
  have hname : c.clusterName = self.clusterName := s.dir.named _ _ hfile
  have hsave : s.Spared (.saveCluster c) ↔ c.asFile = c := by
    rw [Inventory.Spared, Inventory.apply_save_iff, hname, hfile, Option.some.injEq]
    exact eq_comm
  have honeWay := (cleanEnvs_oneWay self (some c.asFile) c c.envs hdry).trace
  rw [← triple_cleanEnvs_iff self s c c.envs hdry, ← hsave]
  unfold DeProvisioning.clean
  rw [tell_bind]
  cases harchive : self.archive with
  | error e =>
      -- the archive is out of reach: the cluster is saved and that is all
      rw [bind_error _ _ e rfl]
      change s.after [.event (.saveCluster c)] = s ↔ _
      exact ⟨fun h => ⟨h, fun hok => (by cases hok)⟩, fun h => h.1⟩
  | ok u =>
      rw [bind_ok _ _ u rfl]
      cases hres : (self.cleanEnvs c c.envs).result with
      | error e =>
          rw [bind_error _ _ e hres]
          change s.after ((.saveCluster c :: (self.cleanEnvs c c.envs).trace).map Change.event) = s
            ↔ _
          rw [spared_iff s c.clusterName (some c.asFile) (-1) _
            (List.forall_mem_cons.mpr ⟨Inventory.oneWay_save _ c, honeWay⟩), List.forall_mem_cons]
          exact and_congr_right (fun _ =>
            ⟨fun h _ => ⟨h, fun _ hok => (by cases hres.symm.trans hok)⟩, fun h => (h rfl).trace⟩)
      | ok u =>
          -- the end is reached: the file of the cluster is removed
          rw [bind_ok _ _ u hres]
          constructor
          · intro h
            have hdir := congrArg (fun s' : Inventory => s'.dir.file self.clusterName) h
            simp only [after_events, trace_ofExcept, List.nil_append, trace_tell] at hdir
            change (s.dir.after ((.saveCluster c :: (self.cleanEnvs c c.envs).trace)
              ++ [.removeClusterYaml self.clusterName])).file self.clusterName = _ at hdir
            rw [ClustersDir.after_append, hfile] at hdir
            have hremoved : (ClustersDir.after (s.dir.after
              (.saveCluster c :: (self.cleanEnvs c c.envs).trace))
              [.removeClusterYaml self.clusterName]).file self.clusterName = none := if_pos rfl
            cases hremoved.symm.trans hdir
          · exact fun h => ((h.2 rfl).result u hres).elim

/-- A dry `nuke` changes nothing when it raises early, or when there is a cloud
    to ask or no file to remove, and no target of the cluster is met. -/
theorem nuke_unchanged_iff (s : Inventory) (cloud cloudRegion : String)
    (hdry : self.dryRun = true) :
    s.after ((self.nuke cloud cloudRegion).trace.map Change.event) = s ↔
      ∀ ms, self.nukeServer cloud cloudRegion = .ok ms →
        s.Unlisted self.metrics ms self.clusterName
        ∧ (ms.deregisters self.metrics self.clusterName →
          (CloudType.fromString cloud).bind createCli = .ok none →
          s.dir.file self.clusterName = none) := by
  have hnuke : ∀ E : Event → Prop, (∀ e ∈ (self.nuke cloud cloudRegion).trace, E e) ↔
      ∀ ms, self.nukeServer cloud cloudRegion = .ok ms →
        (∀ host done, ms.deregistration self.metrics self.clusterName = some (host, done) →
          done.ran = true → E (.deregisterCluster host ms.remoteTargetPath self.clusterName))
        ∧ (ms.deregisters self.metrics self.clusterName →
          (CloudType.fromString cloud).bind createCli = .ok none →
          E (.removeClusterYaml self.clusterName)) := by
    intro E
    have htriple : (∀ e ∈ (self.nuke cloud cloudRegion).trace, E e) ↔
        Triple E (fun _ => True) (self.nuke cloud cloudRegion) :=
      ⟨fun h => ⟨h, fun _ _ => trivial⟩, fun h => h.trace⟩
    rw [htriple]
    unfold DeProvisioning.nuke DeProvisioning.nukeServer
    rw [hdry]
    simp only [triple_bind_iff, triple_ofExcept_iff, triple_deregisterCluster_iff,
      except_bind_ok_iff]
    constructor
    · rintro h ms ⟨config, hconfig, regionConfig, hregion, hms⟩
      rcases h config hconfig regionConfig hregion ms hms with ⟨hservers, hrest⟩
      exact ⟨hservers, fun hdone hcli => (hrest hdone none hcli).trace _ List.mem_cons_self⟩
    · intro h config hconfig regionConfig hregion ms hms
      rcases h ms ⟨config, hconfig, regionConfig, hregion, hms⟩ with ⟨hservers, hrest⟩
      refine ⟨hservers, fun hdone cli hcli => ?_⟩
      cases cli with
      | none => exact triple_tell E _ (hrest hdone hcli)
      | some cli =>
          -- there is a cloud to ask, and a dry run only asks
          simp only [if_true, triple_bind_iff, triple_ofExcept_iff, triple_pure_iff, implies_true]
  rw [spared_iff s self.clusterName none (-1)]
  · rw [hnuke]
    simp only [Inventory.Spared, Inventory.apply_deregisterCluster_iff, Inventory.apply_remove_iff]
    exact Iff.rfl
  · exact (hnuke _).mpr (fun ms _ =>
      ⟨fun host done _ _ => Inventory.oneWay_deregisterCluster _ _ _ _ _,
        fun _ _ => Inventory.oneWay_remove _ _⟩)

end Deprovisioning

section Provisioning

variable (self : Provisioning) (out : Outside)

/-- `configure` changes nothing when it raises, or when the file has the
    cluster that is configured. -/
theorem configure_unchanged_iff (s : Inventory) (loadTopo : Except Exn Value) :
    s.after ((self.configure out loadTopo).trace.map Change.event) = s ↔
      (self.checkNotRunning out self.envs = .ok () → ∀ topo, loadTopo = .ok topo →
        ∀ c, self.configured topo = .ok c → s.dir.file c.clusterName = some c.asFile) := by
  unfold Provisioning.configure
  cases hcheck : self.checkNotRunning out self.envs with
  | error e => exact ⟨fun _ h => (nomatch h), fun _ => rfl⟩
  | ok u =>
      cases loadTopo with
      | error e => exact ⟨fun _ _ topo h => (nomatch h), fun _ => rfl⟩
      | ok topo =>
          cases hconfigured : self.configured topo with
          | error e =>
              rw [bind_ok _ _ u rfl, bind_ok _ _ topo rfl, hconfigured, bind_error _ _ e rfl]
              refine ⟨fun _ _ topo' htopo c hc => ?_, fun _ => rfl⟩
              rw [← Except.ok.inj htopo, hconfigured] at hc
              exact nomatch hc
          | ok c =>
              rw [bind_ok _ _ u rfl, bind_ok _ _ topo rfl, hconfigured, bind_ok _ _ c rfl]
              change s.apply (.event (.saveCluster c)) = s ↔ _
              rw [Inventory.apply_save_iff]
              constructor
              · intro h _ topo' htopo c' hc'
                rw [← Except.ok.inj htopo, hconfigured] at hc'
                rw [← Except.ok.inj hc']
                exact h
              · exact fun h => h rfl topo rfl c hconfigured

/-- The event makes nothing in a cloud. -/
def Event.MakesNothing : Event → Prop
  | .createInstance _ _ => False
  | .createVolume _ => False
  | _ => True

/-- An environment is turned down: a cloud object cannot be made, the cluster is
    running there, or the clouds make nothing of what they are asked for and one
    of them raises. -/
def Provisioning.TurnedDown (env : EnvironmentComponents) (topoMap : Dict String String) : Prop :=
  ∀ ec, createCloud (out.clouds env.env) .ephemeral self.clusterName env.regionConfig = .ok ec →
  ∀ cloud, createCloudFromStr (out.clouds env.env) env.env.cloud self.clusterName
    env.regionConfig = .ok cloud →
  isRunning cloud = .ok false →
    Triple Event.MakesNothing (fun _ =>
      Triple Event.MakesNothing (fun _ =>
        Triple Event.MakesNothing (fun _ => False)
          (launchSome ec (out.schedule env.env) (instancesToFake env topoMap)))
        (launchSome cloud (out.schedule env.env) (instancesToLaunch env topoMap)))
      (launchStorageInstances cloud env.sharedStorage)

theorem checkProvisioned_ok_iff (cloudName : String) (cloud : AbstractCloud) (u : Unit) :
    self.checkProvisioned cloudName [] cloud = .ok u ↔ isRunning cloud = .ok false := by
  unfold Provisioning.checkProvisioned
  rw [if_neg List.not_mem_nil, except_bind_ok_iff]
  constructor
  · rintro ⟨running, hrunning, hok⟩
    cases running with
    | true => exact nomatch hok
    | false => exact hrunning
  · exact fun h => ⟨false, h, rfl⟩

theorem turnedDown_iff (env : EnvironmentComponents) (topoMap : Dict String String) :
    Triple Event.MakesNothing (fun _ => False) (self.allocateEnv out env [] topoMap) ↔
      self.TurnedDown out env topoMap := by
  unfold Provisioning.allocateEnv Provisioning.TurnedDown
  simp only [triple_bind_iff, triple_ofExcept_iff, triple_pure_iff, checkProvisioned_ok_iff,
    Unique.forall_iff]

theorem launch_spared_iff (s : Inventory) (env : String) (e : Event) (h : LaunchEvent env e) :
    s.Spared e ↔ e.MakesNothing := by
  cases e with
  | createInstance env' id => exact s.apply_createInstance_iff env' id
  | createVolume id => exact s.apply_createVolume_iff id
  | writeLockFile file => exact ⟨fun _ => trivial, fun _ => rfl⟩
  | _ => exact h.elim

/-- `allocate` of the cluster in a file changes nothing when there is nothing to
    do, or when the first environment is turned down. -/
theorem allocateEnvs_unchanged_iff (s : Inventory) (c : Cluster) (envs : List EnvironmentComponents)
    (hfile : s.dir.file c.clusterName = some c) :
    s.after ((self.allocateEnvs out envs [] c).trace.map Change.event) = s ↔
      ∀ env ∈ envs.head?, self.TurnedDown out env c.topoMap := by
  cases envs with
  | nil => exact ⟨fun _ env henv => (by cases henv), fun _ => rfl⟩
  | cons env envs =>
      have hlaunch := (allocateEnv_spec self out env [] c.topoMap).trace
      have haccounts := allocateEnvs_accounts self out (env :: envs) [] c s.dir (Or.inl hfile)
      rw [List.head?_cons]
      simp only [Option.mem_def, Option.some.injEq, forall_eq']
      rw [← turnedDown_iff]
      cases hres : (self.allocateEnv out env [] c.topoMap).result with
      | error e =>
          rw [Provisioning.allocateEnvs, bind_error _ _ e hres, spared_iff s "" none 0 _
            (fun e he => Inventory.oneWay_launch _ _ _ _ e (hlaunch e he))]
          constructor
          · exact fun h => ⟨fun e he => (launch_spared_iff s _ e (hlaunch e he)).mp (h e he),
              fun _ hok => (by cases hres.symm.trans hok)⟩
          · exact fun h e he => (launch_spared_iff s _ e (hlaunch e he)).mpr (h.trace e he)
      | ok launched =>
          -- the environment is added to the cluster, and that is saved
          refine ⟨fun h => ?_, fun h => (h.result launched hres).elim⟩
          rcases haccounts.shown with ⟨c', hshows, hc'⟩
          rw [← after_events, h] at hshows
          have hsame : c.envs = c'.envs := by
            unfold Shows at hshows
            rw [hc'.clusterName, hfile, Option.some.injEq, Option.some.injEq] at hshows
            rcases hshows with hsame | hsame
            · rw [hsame]
            · rw [hsame]
              rfl
          have hnil : Attempts.listed (self.attempts out c.topoMap (env :: envs) []) = [] := by
            rw [hc'.envs] at hsame
            exact List.self_eq_append_right.mp hsame
          rw [Provisioning.attempts, Attempts.listed,
            List.filter_cons_of_pos (by rw [cameBack, hres])] at hnil
          cases hnil

theorem allocate_unchanged_iff (s : Inventory) (opens : Cluster → Except Exn Unit) :
    s.after ((self.allocate out opens s.dir).trace.map Change.event) = s ↔
      ∀ c, loadCluster opens s.dir self.clusterName = .ok c →
        ∀ env ∈ self.envs.head?, self.TurnedDown out env c.topoMap := by
  unfold Provisioning.allocate
  cases hload : loadCluster opens s.dir self.clusterName with
  | error e => exact ⟨fun _ c hc => (nomatch hc), fun _ => rfl⟩
  | ok c =>
      have hfile := loadCluster_ok opens s.dir self.clusterName c hload
      have hname := s.dir.named _ _ hfile
      rw [bind_ok _ _ c rfl, trace_ofExcept, List.nil_append, asXbench_trace,
        allocateEnvs_unchanged_iff self out s c self.envs (by rw [hname]; exact hfile)]
      exact ⟨fun hc c' hc' => Except.ok.inj hc' ▸ hc, fun hall => hall c rfl⟩

end Provisioning

namespace Instrumenting

variable (self : Instrumenting) (s : Inventory)

/-- What a registration of an exporter comes to. -/
def sentOutcome (r : Registration) : Except Exn Unit :=
  if r.server.sshClient.isSome then self.sent r.server r.node r.exporter else .ok ()

/-- A class registers an exporter on its first node. -/
def Asks (ms : Option MetricsServer) (nodes : GroupNodes) (exporter : Option Exporter)
    (r : Registration) : Prop :=
  ms = some r.server ∧ nodes.head? = some r.node ∧ exporter = some r.exporter

/-- What that comes to. -/
def headOutcome (ms : Option MetricsServer) (nodes : GroupNodes) :
    Option Exporter → Except Exn Unit
  | none => .ok ()
  | some exporter =>
      match nodes.head?, ms with
      | none, _ => .error ⟨.indexError, "list index out of range"⟩
      | some _, none => .error Exporting.noClient
      | some n, some server => self.sentOutcome ⟨server, n, exporter⟩

/-- The target of a registration is there already, or it has none. -/
def Known (r : Registration) : Prop :=
  ∀ t, self.targetOf r = some t → t ∈ s.targets

/-- The registrations of `make`, up to where it raises, are known. -/
def MakesKnown (c : Cluster) : List EnvironmentComponents → Prop
  | [] => True
  | env :: rest => ∀ server, initializeServer self.metrics env.regionConfig = .ok server →
      (∀ n ∈ Exporting.managedNodes c env, self.prepare n = .ok () →
        self.Known s ⟨server, n, nodeExporter⟩)
      ∧ ((∀ n ∈ Exporting.managedNodes c env, self.prepare n = .ok ()
          ∧ self.sentOutcome ⟨server, n, nodeExporter⟩ = .ok ()) → MakesKnown c rest)

/-- The same of the first phase of `install`, and then what is asked of the
    server in use. -/
def ConfiguresKnown (c : Cluster) (P : Option MetricsServer → Prop) :
    Option MetricsServer → List EnvironmentComponents → Prop
  | ms, [] => P ms
  | _, env :: rest => ∀ server, initializeServer self.metrics env.regionConfig = .ok server →
      ∀ groups, groupNodesByName self.klasses c = .ok groups →
      (∀ g ∈ groups.values, g.env = env.env.name → ∀ r,
        Asks (some server) g.nodes ((self.classOf g.klass).onConfigure (self.config g)) r →
          self.Known s r)
      ∧ ((∀ g ∈ groups.values, g.env = env.env.name →
          self.headOutcome (some server) g.nodes
              ((self.classOf g.klass).onConfigure (self.config g)) = .ok ()
            ∧ self.configuration g = .ok ()) →
        ConfiguresKnown c P (some server) rest)

/-- What the install of a component returns, its exporter included. -/
def installOutcome (ms : Option MetricsServer) (g : Group) :
    Except Exn (String × Option BackendTarget) := do
  self.headOutcome ms g.nodes ((self.classOf g.klass).onInstall (self.config g))
  let result ← self.outcome g
  .ok (g.name, result)

/-- What the installs return, in the order in which they are over. -/
def installOutcomes (ms : Option MetricsServer) (groups : Dict String Group) :
    Except Exn (List (String × Option BackendTarget)) :=
  collect ((self.pool none).complete (groups.values.map (self.installOutcome ms)))

/-- The registrations of the second phase are known, and when no component
    raises the file has the cluster with the target and the state it is to
    have. -/
def InstallsKnown (c : Cluster) (ms : Option MetricsServer) : Prop :=
  ∀ groups, groupNodesByName self.klasses c = .ok groups →
    (∀ g ∈ groups.values, ∀ r,
      Asks ms g.nodes ((self.classOf g.klass).onInstall (self.config g)) r → self.Known s r)
    ∧ ∀ completedInstalls, self.installOutcomes ms groups = .ok completedInstalls →
      ∀ bt, (self.collectTarget c none completedInstalls).result = .ok bt →
        s.dir.file c.clusterName = some (installedWith c bt).asFile

/-- What comes of taking an exporter off. -/
def dropOutcome (ms : MetricsServer) : Option (Node × Exporter) → Except Exn Unit
  | none => .ok ()
  | some (n, exporter) =>
      match ms.sshClient with
      | none => .ok ()
      | some host => (self.removal host ms n exporter).outcome

/-- What comes of cleaning a component. -/
def cleanOutcome (ms : MetricsServer) (g : Group) : Except Exn Unit := do
  self.beforeClean g
  self.dropOutcome ms (self.cleanedExporter g)
  self.afterClean g

/-- What `clean` takes off, up to where it raises, was not there, and the file
    has no target when an environment is over. -/
def CleansNothing : Cluster → List EnvironmentComponents → Prop
  | _, [] => True
  | c, env :: rest => ∀ ms, initializeServer self.metrics env.regionConfig = .ok ms →
      ∀ groups, groupNodesByName self.klasses c = .ok groups →
      (∀ g ∈ groups.values, g.env = env.env.name → self.beforeClean g = .ok () →
        ∀ n exporter, self.cleanedExporter g = some (n, exporter) → ∀ host,
          ms.sshClient = some host → (self.removal host ms n exporter).ran = true →
            exporterTarget host ms n exporter ∉ s.targets)
      ∧ ((∀ g ∈ groups.values, g.env = env.env.name → self.cleanOutcome ms g = .ok ()) →
        s.dir.file c.clusterName = some (Uninstaller.cleaned c).asFile
          ∧ CleansNothing (Uninstaller.cleaned c) rest)

section Outcomes

theorem registerMetricTarget_result (server : MetricsServer) (n : Node) (exporter : Exporter) :
    (self.registerMetricTarget (some server) n exporter).result
      = self.sentOutcome ⟨server, n, exporter⟩ := by
  unfold Exporting.registerMetricTarget sentOutcome
  dsimp only
  by_cases hclient : server.sshClient.isSome = true
  · rw [if_pos hclient, if_pos hclient]
    rfl
  · rw [if_neg hclient, if_neg hclient]
    rfl

theorem registerHead_result (ms : Option MetricsServer) (nodes : GroupNodes)
    (exporter : Option Exporter) :
    (self.registerHead ms nodes exporter).result = self.headOutcome ms nodes exporter := by
  unfold Exporting.registerHead headOutcome
  cases exporter with
  | none => rfl
  | some e =>
      cases nodes.head? with
      | none => rfl
      | some n =>
          cases ms with
          | none => rfl
          | some server => exact self.registerMetricTarget_result server n e

theorem nodeConfigure_ok_iff (server : MetricsServer) (n : Node) :
    (∃ a, (self.nodeConfigure (some server) n).result = .ok a) ↔
      self.prepare n = .ok () ∧ self.sentOutcome ⟨server, n, nodeExporter⟩ = .ok () := by
  unfold Exporting.nodeConfigure
  rw [result_bind, Unique.exists_iff]
  simp only [registerMetricTarget_result, result_ofExcept, except_bind_ok_iff, Unique.exists_iff]

theorem mem_nodeConfigure (server : MetricsServer) (n : Node) (r : Registration) :
    r ∈ (self.nodeConfigure (some server) n).trace ↔
      self.prepare n = .ok () ∧ r = ⟨server, n, nodeExporter⟩ := by
  unfold Exporting.nodeConfigure
  cases hprepare : self.prepare n with
  | error e => exact ⟨fun h => absurd h List.not_mem_nil, fun h => (nomatch h.1)⟩
  | ok u =>
      rw [bind_ok _ _ u rfl, trace_ofExcept, List.nil_append, self.mem_registerMetricTarget,
        Option.some.injEq]
      constructor
      · rintro ⟨rfl, rfl, hexporter⟩
        refine ⟨rfl, ?_⟩
        rw [hexporter]
      · rintro ⟨_, rfl⟩
        exact ⟨rfl, rfl, rfl⟩

theorem configureInstance_ok_iff (ms : Option MetricsServer) (g : Group) :
    (∃ a, (self.toExporting.configureInstance ms g).result = .ok a) ↔
      self.headOutcome ms g.nodes ((self.classOf g.klass).onConfigure (self.config g)) = .ok ()
        ∧ self.configuration g = .ok () := by
  unfold Exporting.configureInstance
  rw [result_bind, Unique.exists_iff]
  simp only [registerHead_result, result_ofExcept, except_bind_ok_iff, Unique.exists_iff]

theorem mem_configureInstance (ms : Option MetricsServer) (g : Group) (r : Registration) :
    r ∈ (self.toExporting.configureInstance ms g).trace ↔
      Asks ms g.nodes ((self.classOf g.klass).onConfigure (self.config g)) r := by
  rw [Asks, ← self.mem_registerHead, Exporting.configureInstance, trace_bind_ofExcept]

theorem installInstance_result (ms : Option MetricsServer) (g : Group) :
    (self.toExporting.installInstance ms g).result = self.installOutcome ms g := by
  unfold Exporting.installInstance installOutcome
  rw [result_bind, registerHead_result]
  simp only [result_bind, result_ofExcept, result_pure]

theorem dropExporter_result (ms : MetricsServer) (o : Option (Node × Exporter)) :
    (self.dropExporter ms o).result = self.dropOutcome ms o := by
  cases o with
  | none => rfl
  | some x =>
      unfold dropExporter dropOutcome deregisterMetricTarget
      dsimp only
      cases ms.sshClient with
      | none => rfl
      | some host =>
          dsimp only
          by_cases hran : (self.removal host ms x.1 x.2).ran = true
          · rw [if_pos hran]
            rfl
          · rw [if_neg hran]
            rfl

theorem mem_dropExporter (ms : MetricsServer) (o : Option (Node × Exporter)) (ch : Change) :
    ch ∈ (self.dropExporter ms o).trace ↔ ∃ n exporter, o = some (n, exporter) ∧
      ∃ host, ms.sshClient = some host ∧ (self.removal host ms n exporter).ran = true
        ∧ ch = .deregister (exporterTarget host ms n exporter) := by
  cases o with
  | none => simp [dropExporter]
  | some x =>
      rcases x with ⟨n, exporter⟩
      unfold dropExporter deregisterMetricTarget
      dsimp only
      cases ms.sshClient with
      | none => simp
      | some host =>
          dsimp only
          by_cases hran : (self.removal host ms n exporter).ran = true
          · rw [if_pos hran, trace_bind_ofExcept]
            simp [hran]
          · rw [if_neg hran]
            simp [hran]

theorem cleanInstance_result (ms : MetricsServer) (g : Group) :
    (self.cleanInstance ms g).result = self.cleanOutcome ms g := by
  unfold cleanInstance
  simp only [result_bind, result_ofExcept, dropExporter_result]
  rfl

theorem mem_cleanInstance (ms : MetricsServer) (g : Group) (ch : Change) :
    ch ∈ (self.cleanInstance ms g).trace ↔ self.beforeClean g = .ok ()
      ∧ ch ∈ (self.dropExporter ms (self.cleanedExporter g)).trace := by
  unfold cleanInstance
  cases hbefore : self.beforeClean g with
  | error e => exact ⟨fun h => absurd h List.not_mem_nil, fun h => (nomatch h.1)⟩
  | ok u =>
      rw [bind_ok _ _ u rfl, trace_bind_ofExcept]
      simp

end Outcomes

section Loops

variable (c : Cluster)

theorem triple_makeEnvs_iff (ms : Option MetricsServer) (envs : List EnvironmentComponents) :
    Triple (self.Known s) (fun _ => True) (self.makeEnvs c ms envs) ↔ self.MakesKnown s c envs := by
  induction envs generalizing ms with
  | nil => exact ⟨fun _ => trivial, fun _ => triple_pure _ _ ms trivial⟩
  | cons env envs ih =>
      unfold Exporting.makeEnvs MakesKnown
      simp only [triple_step_iff, triple_parallel_bind_iff, List.forall_mem_map,
        nodeConfigure_ok_iff, mem_nodeConfigure, and_imp, forall_eq_apply_imp_iff, ih]

theorem triple_configureEnvs_iff (P : Option MetricsServer → Prop) (ms : Option MetricsServer)
    (envs : List EnvironmentComponents) :
    Triple (self.Known s) P (self.toExporting.configureEnvs c ms envs) ↔
      self.ConfiguresKnown s c P ms envs := by
  induction envs generalizing ms with
  | nil => exact triple_pure_iff _ _ ms
  | cons env envs ih =>
      unfold Exporting.configureEnvs ConfiguresKnown
      simp only [triple_step_iff, triple_parallel_bind_iff, List.forall_mem_map, List.mem_filter,
        beq_iff_eq, configureInstance_ok_iff, mem_configureInstance, and_imp, ih]

theorem installs_result (ms : Option MetricsServer) (groups : Dict String Group) :
    (parallel (self.pool none)
      (groups.values.map (self.toExporting.installInstance ms))).result
      = self.installOutcomes ms groups := by
  have hmap : (groups.values.map (self.toExporting.installInstance ms)).map Effect.result
      = groups.values.map (self.installOutcome ms) := by
    rw [List.map_map]
    exact List.map_congr_left (fun g _ => self.installInstance_result ms g)
  rw [parallel, installOutcomes, hmap]

theorem triple_installed_iff (Q : Option BackendTarget → Prop) (ms : Option MetricsServer) :
    Triple (self.Known s) Q (self.installed c ms) ↔ self.ConfiguresKnown s c (fun ms =>
      ∀ groups, groupNodesByName self.klasses c = .ok groups →
        (∀ g ∈ groups.values, ∀ r,
          Asks ms g.nodes ((self.classOf g.klass).onInstall (self.config g)) r → self.Known s r)
        ∧ ∀ completedInstalls, self.installOutcomes ms groups = .ok completedInstalls →
          ∀ bt, (self.collectTarget c none completedInstalls).result = .ok bt → Q bt)
      ms self.envs := by
  unfold Exporting.installed
  rw [triple_bind_iff, triple_configureEnvs_iff]
  simp only [triple_bind_iff, triple_ofExcept_iff, triple_parallel_iff, List.forall_mem_map,
    installs_result, Exporting.mem_installInstance]
  exact Iff.rfl

theorem triple_cleanEnvs_iff (envs : List EnvironmentComponents) :
    Triple (fun ch => s.apply ch = s) (fun _ => True) (self.cleanEnvs c envs) ↔
      self.CleansNothing s c envs := by
  induction envs generalizing c with
  | nil => exact ⟨fun _ => trivial, fun _ => triple_pure _ _ () trivial⟩
  | cons env envs ih =>
      unfold cleanEnvs CleansNothing
      simp only [triple_step_iff, triple_parallel_bind_iff, List.forall_mem_map, List.mem_filter,
        beq_iff_eq, cleanInstance_result, mem_cleanInstance, and_imp, triple_tell_bind_iff, ih,
        Inventory.apply_save_iff, Unique.exists_iff, mem_dropExporter]
      refine forall₄_congr (fun ms _ groups _ => and_congr ?_ Iff.rfl)
      refine forall₃_congr (fun g _ _ => ?_)
      constructor
      · intro h hbefore n exporter he host hhost hran
        exact (s.apply_deregister_iff _).mp (h _ hbefore ⟨n, exporter, he, host, hhost, hran, rfl⟩)
      · rintro h ch hbefore ⟨n, exporter, he, host, hhost, hran, rfl⟩
        exact (s.apply_deregister_iff _).mpr (h hbefore n exporter he host hhost hran)

/-- A `clean` takes targets off and saves the cluster without its target. -/
theorem cleanEnvs_oneWay (d : Cluster) (hd : Uninstaller.cleaned c = d)
    (envs : List EnvironmentComponents) :
    Triple (Inventory.OneWay (-1) d.clusterName (some d.asFile)) (fun _ => True)
      (self.cleanEnvs c envs) := by
  induction envs generalizing c with
  | nil => exact triple_pure _ _ () trivial
  | cons env envs ih =>
      unfold cleanEnvs
      simp only [triple_step_iff, triple_parallel_bind_iff, List.forall_mem_map, List.mem_filter,
        mem_cleanInstance, mem_dropExporter, triple_tell_bind_iff]
      refine fun ms _ groups _ => ⟨?_, fun _ => ⟨?_, ih _ hd⟩⟩
      · rintro g _ ch ⟨_, n, exporter, _, host, _, _, rfl⟩
        exact Inventory.oneWay_deregister _ _ _
      · rw [hd]
        exact Inventory.oneWay_save _ d

end Loops

section Unchanged

variable (c : Cluster)

theorem known_of_registering (P : Change → Prop) {α : Type} (x : Registering α) :
    (∀ ch ∈ (self.registering x).trace, P ch) ↔
      ∀ r ∈ x.trace, ∀ t, self.targetOf r = some t → P (.register t) := by
  simp only [registering, relabel, List.mem_filterMap, Option.map_eq_some_iff]
  constructor
  · exact fun h r hr t ht => h _ ⟨r, hr, t, ht, rfl⟩
  · rintro h ch ⟨r, hr, t, ht, rfl⟩
    exact h r hr t ht

theorem make_unchanged_iff (ms : Option MetricsServer) :
    s.after (self.registering (self.make c ms)).trace = s ↔ self.MakesKnown s c self.envs := by
  rw [s.after_eq_self_iff 1 "" none _ ((self.known_of_registering _ _).mpr
    (fun _ _ t _ => Inventory.oneWay_register "" none t)), known_of_registering,
    ← triple_makeEnvs_iff self s c ms]
  simp only [Inventory.apply_register_iff]
  exact ⟨fun h => ⟨h, fun _ _ => trivial⟩, fun h => h.trace⟩

/-- The registrations of `install`, and what it saves when it is over. -/
theorem install_unchanged_iff (ms : Option MetricsServer) :
    s.after (self.registering (self.installed c ms) >>= fun bt =>
      tell (.event (.saveCluster (installedWith c bt)))).trace = s ↔
      self.ConfiguresKnown s c (self.InstallsKnown s c) ms self.envs := by
  refine Iff.trans ?_ (triple_installed_iff self s c
    (fun bt => s.dir.file c.clusterName = some (installedWith c bt).asFile) ms)
  -- registrations go one way, so together they change nothing only if each does not
  have hregister : ∀ clusterName file, ∀ ch ∈ (self.registering (self.installed c ms)).trace,
      Inventory.OneWay 1 clusterName file ch := fun clusterName file =>
    (self.known_of_registering _ _).mpr
      (fun _ _ t _ => Inventory.oneWay_register clusterName file t)
  cases hres : (self.registering (self.installed c ms)).result with
  | error e =>
      rw [bind_error _ _ e hres, s.after_eq_self_iff 1 "" none _ (hregister "" none),
        known_of_registering]
      simp only [Inventory.apply_register_iff]
      exact ⟨fun h => ⟨h, fun _ hok => nomatch hres.symm.trans hok⟩, fun h => h.trace⟩
  | ok bt =>
      rw [bind_ok _ _ bt hres, s.after_eq_self_iff 1 (installedWith c bt).clusterName
        (some (installedWith c bt).asFile)]
      -- the cluster is saved after the registrations
      · rw [List.forall_mem_append, known_of_registering]
        simp only [Inventory.apply_register_iff, trace_tell, List.forall_mem_singleton,
          Inventory.apply_save_iff]
        constructor
        · rintro ⟨hknown, hfile⟩
          refine ⟨hknown, fun bt' hbt' => ?_⟩
          rw [← Except.ok.inj (hres.symm.trans hbt')]
          exact hfile
        · exact fun h => ⟨h.trace, h.result bt hres⟩
      · refine List.forall_mem_append.mpr ⟨hregister _ _, ?_⟩
        exact List.forall_mem_singleton.mpr (Inventory.oneWay_save 1 _)

theorem uninstall_unchanged_iff :
    s.after (self.cleanEnvs c self.envs).trace = s ↔ self.CleansNothing s c self.envs := by
  rw [s.after_eq_self_iff (-1) _ _ _ (self.cleanEnvs_oneWay c _ rfl self.envs).trace,
    ← triple_cleanEnvs_iff]
  exact ⟨fun h => ⟨h, fun _ _ => trivial⟩, fun h => h.trace⟩

end Unchanged

end Instrumenting

namespace Operation

/-- When a step constructed for a dry run changes nothing. -/
def HoldsWhen (s : Inventory) : Operation → Prop
  | .clean self opens => ∀ c, loadCluster opens s.dir self.clusterName = .ok c →
      c.asFile = c ∧ (self.archive = .ok () → self.Stops s c.clusterName c.envs)
  | .nuke self cloud cloudRegion => ∀ ms, self.nukeServer cloud cloudRegion = .ok ms →
      s.Unlisted self.metrics ms self.clusterName
      ∧ (ms.deregisters self.metrics self.clusterName →
        (CloudType.fromString cloud).bind createCli = .ok none →
        s.dir.file self.clusterName = none)
  | .configure self out loadTopo => self.checkNotRunning out self.envs = .ok () →
      ∀ topo, loadTopo = .ok topo → ∀ c, self.configured topo = .ok c →
        s.dir.file c.clusterName = some c.asFile
  | .allocate self out opens => ∀ c, loadCluster opens s.dir self.clusterName = .ok c →
      ∀ env ∈ self.envs.head?, self.TurnedDown out env c.topoMap
  | .selfTest _ _ _ => True
  | .make self opens _ => ∀ c, loadCluster opens s.dir self.clusterName = .ok c →
      self.MakesKnown s c self.envs
  | .install self opens ms => ∀ c, loadCluster opens s.dir self.clusterName = .ok c →
      self.ConfiguresKnown s c (self.InstallsKnown s c) ms self.envs
  | .uninstall self opens => ∀ c, loadCluster opens s.dir self.clusterName = .ok c →
      self.CleansNothing s c self.envs

theorem happening_trace {α : Type} (x : Command α) :
    (happening x).trace = x.trace.map Change.event := by
  rw [happening, relabel, List.filterMap_eq_map']

/-- A step that begins with loading the cluster changes nothing when there is
    none, or when the rest changes nothing. -/
theorem loaded_unchanged_iff (s : Inventory) (opens : Cluster → Except Exn Unit)
    (clusterName : String) (body : Cluster → Effect Change Exn Unit) (P : Cluster → Prop)
    (h : ∀ c, s.dir.file clusterName = some c → (s.after (body c).trace = s ↔ P c)) :
    s.after (ofExcept (loadCluster opens s.dir clusterName) >>= body).trace = s ↔
      ∀ c, loadCluster opens s.dir clusterName = .ok c → P c := by
  cases hload : loadCluster opens s.dir clusterName with
  | error e => exact ⟨fun _ c hc => (nomatch hc), fun _ => rfl⟩
  | ok c =>
      rw [bind_ok _ _ c rfl, trace_ofExcept, List.nil_append,
        h c (loadCluster_ok opens s.dir clusterName c hload)]
      exact ⟨fun hc c' hc' => Except.ok.inj hc' ▸ hc, fun hall => hall c rfl⟩

theorem stops_dry (self : DeProvisioning) (s : Inventory) (clusterName : String)
    (envs : List Environment) :
    DeProvisioning.Stops { self with dryRun := true } s clusterName envs
      ↔ self.Stops s clusterName envs := by
  induction envs with
  | nil => exact Iff.rfl
  | cons env envs ih =>
      unfold DeProvisioning.Stops
      rw [ih]
      exact Iff.rfl

/-- A step constructed for a dry run changes nothing exactly under the
    condition. -/
theorem unchanged_iff (s : Inventory) (op : Operation) :
    s.after (op.run s).trace = s ↔ op.HoldsWhen s := by
  -- one lemma for each operation, after its handlers are taken off
  cases op with
  | clean self opens =>
      refine loaded_unchanged_iff s opens self.clusterName _ _ (fun c hfile => ?_)
      rw [happening_trace,
        clean_unchanged_iff { self with dryRun := true } s c rfl hfile, stops_dry]
  | nuke self cloud cloudRegion =>
      change s.after (happening _).trace = s ↔ _
      rw [happening_trace]
      exact nuke_unchanged_iff { self with dryRun := true } s cloud cloudRegion rfl
  | configure self out loadTopo =>
      change s.after (happening _ >>= fun _ => ofExcept (.ok ())).trace = s ↔ _
      rw [trace_bind_ofExcept, happening_trace]
      exact configure_unchanged_iff self out s loadTopo
  | allocate self out opens =>
      change s.after (happening _ >>= fun _ => ofExcept (.ok ())).trace = s ↔ _
      rw [trace_bind_ofExcept, happening_trace]
      exact allocate_unchanged_iff self out s opens
  | selfTest clusterName opens answers =>
      refine (loaded_unchanged_iff s opens clusterName _ (fun _ => True) (fun c _ => ?_)).trans ?_
      · exact ⟨fun _ => trivial, fun _ => rfl⟩
      · exact ⟨fun _ => trivial, fun _ _ _ => trivial⟩
  | make self opens ms =>
      refine loaded_unchanged_iff s opens self.clusterName _ _ (fun c _ => ?_)
      change s.after (self.registering _ >>= fun _ => ofExcept (.ok ())).trace = s ↔ _
      rw [trace_bind_ofExcept]
      exact self.make_unchanged_iff s c ms
  | install self opens ms =>
      exact loaded_unchanged_iff s opens self.clusterName _ _
        (fun c _ => self.install_unchanged_iff s c ms)
  | uninstall self opens =>
      exact loaded_unchanged_iff s opens self.clusterName _ _
        (fun c _ => self.uninstall_unchanged_iff s c)

section Examples

/-- One driver that runs on AWS, and its cluster file. -/
def oneRunning : Inventory where
  machines := [("env_0", some "i-1")]
  volumes := []
  dir := dirOf (Lifecycle.installedDriver .ready)
  targets := []

/-- After a dry `clean` the driver still runs, and its cluster file is gone. -/
theorem dry_clean_forgets : ¬ ∀ (s : Inventory) (op : Operation), s.after (op.run s).trace = s := by
  intro h
  have hsame := h oneRunning (.clean devTeardown (fun _ => .ok ()))
  have hgone : ((oneRunning.after (run oneRunning
      (.clean devTeardown (fun _ => .ok ()))).trace).dir.file "dev").isSome = false := rfl
  have hthere : (oneRunning.dir.file "dev").isSome = true := rfl
  rw [hsame, hthere] at hgone
  exact nomatch hgone

end Examples

end Operation

end Xbench
