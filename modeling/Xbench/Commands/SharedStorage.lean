import Xbench.Lib.Triple
import Xbench.Commands.Allocation
import Xbench.Commands.Confinement

/-!
# Shared Storage

What becomes of the volumes that belong to no machine.

Each environment asks its cloud for the shared volumes of its configuration,
and the cluster takes the answer as its list. The list of the environment
before is gone. A teardown goes over the environments and has each of their
clouds destroy the list, all of it, until the first volume of a type that the
cloud has no class for, which ends the teardown.

So the volumes an environment made are destroyed by its own cloud, once and
with no other, exactly when they are what this cloud gets to in the list of
the last environment.

## Main definitions

* `Provisioning.sharedLaunch`: Launching the shared volumes of an environment.
* `Provisioning.launchedIn`: The volumes that were launched there.
* `DeProvisioning.cleanBefore`: A teardown up to the shared volumes.
* `implements`: A cloud has a class for a volume.
* `DeProvisioning.segments`: What a teardown does in each environment.
* `DeProvisioning.cleaned`: The same for a whole teardown.
* `DeProvisioning.getsTo`: The volumes each environment's cloud gets to.
* `DeProvisioning.comesTo`: The same for a whole teardown.
* `Accounted`: Every shared volume is recorded, and destroyed by its own cloud.

## Theorems

* `allocateEnvs_shared`: The list of the last environment is the one that is
  kept.
* `destroyedShared_cleaned`: What a teardown destroys.
* `accounted_iff`: When every shared volume is accounted for.
-/

namespace Xbench

open Effect

def Event.destroyedShared? : Event → Option VirtualStorage
  | .destroyVolume none s => some s
  | _ => none

/-- The volumes of no machine that were told to go. -/
def destroyedShared (trace : List Event) : List VirtualStorage :=
  trace.filterMap Event.destroyedShared?

section Launch

variable (self : Provisioning) (out : Outside)

/-- Launching the shared volumes of an environment. -/
def Provisioning.sharedLaunch (env : EnvironmentComponents) : Command (List VirtualStorage) := do
  let cloud ← ofExcept (createCloudFromStr (out.clouds env.env) env.env.cloud self.clusterName
    env.regionConfig)
  launchStorageInstances cloud env.sharedStorage

/-- The shared volumes that were launched there: those that a launch gave. -/
def Provisioning.launchedIn (env : EnvironmentComponents) : List VirtualStorage :=
  match createCloudFromStr (out.clouds env.env) env.env.cloud self.clusterName
      env.regionConfig with
  | .ok cloud =>
      env.sharedStorage.filterMap (fun s =>
        (launchStorage cloud none s).result.toOption.join)
  | .error _ => []

/-- An environment begins with its shared volumes. -/
theorem allocateEnv_shared (env : EnvironmentComponents) (provisionedClouds : List String)
    (topoMap : Dict String String) (launched : Launched)
    (h : (self.allocateEnv out env provisionedClouds topoMap).result = .ok launched) :
    (self.sharedLaunch out env).result = .ok launched.sharedStorage
      ∧ ∃ rest, (self.allocateEnv out env provisionedClouds topoMap).trace
        = (self.sharedLaunch out env).trace ++ rest := by
  unfold Provisioning.allocateEnv at h ⊢
  rcases bind_result_ok _ _ _ h with ⟨ec, hec, h⟩
  rcases bind_result_ok _ _ _ h with ⟨cloud, hcloud, h⟩
  rcases bind_result_ok _ _ _ h with ⟨u, hcheck, h⟩
  rcases bind_result_ok _ _ _ h with ⟨storage, hstorage, h⟩
  rcases bind_result_ok _ _ _ h with ⟨nodes, hnodes, h⟩
  rcases bind_result_ok _ _ _ h with ⟨ephemeralNodes, _, h⟩
  change createCloudFromStr _ _ _ _ = _ at hcloud
  change self.checkProvisioned _ _ _ = _ at hcheck
  change createCloud _ _ _ _ = _ at hec
  have hlaunch : self.sharedLaunch out env = launchStorageInstances cloud env.sharedStorage := by
    unfold Provisioning.sharedLaunch
    rw [hcloud, bind_ok _ _ cloud rfl]
    rfl
  rw [hlaunch]
  constructor
  · rw [hstorage, ← Except.ok.inj h]
  · dsimp only
    rw [hec, bind_ok _ _ ec rfl, hcloud, bind_ok _ _ cloud rfl, hcheck, bind_ok _ _ u rfl,
      bind_ok _ _ storage hstorage]
    exact ⟨_, rfl⟩

theorem joinNodes_sharedStorage (c : Cluster) (l : List (Option Node)) :
    (joinNodes c l).sharedStorage = c.sharedStorage := by
  induction l generalizing c with
  | nil => rfl
  | cons o l ih =>
      cases o with
      | none => exact ih c
      | some n =>
          rw [joinNodes, ih]
          rfl

/-- A step of the loop that goes on. -/
theorem allocateEnvs_cons (env : EnvironmentComponents) (envs : List EnvironmentComponents)
    (provisionedClouds : List String) (c c' : Cluster)
    (h : (self.allocateEnvs out (env :: envs) provisionedClouds c).result = .ok c') :
    ∃ launched, (self.allocateEnv out env provisionedClouds c.topoMap).result = .ok launched
      ∧ (self.allocateEnvs out envs (seen env provisionedClouds) (joined c env launched)).result
        = .ok c'
      ∧ (self.allocateEnvs out (env :: envs) provisionedClouds c).trace
        = (self.allocateEnv out env provisionedClouds c.topoMap).trace
          ++ .saveCluster (joined c env launched)
            :: (self.allocateEnvs out envs (seen env provisionedClouds)
              (joined c env launched)).trace := by
  rw [Provisioning.allocateEnvs] at h ⊢
  rcases bind_result_ok _ _ _ h with ⟨launched, hlaunched, hrest⟩
  rw [bind_ok _ _ launched hlaunched]
  by_cases hnone : none ∈ launched.nodes
  · rw [if_pos hnone] at hrest
    cases hrest
  · rw [if_neg hnone] at hrest
    refine ⟨launched, hlaunched, hrest, ?_⟩
    dsimp only
    rw [if_neg hnone]
    rfl

/-- The list of the last environment is the one that is kept. -/
theorem allocateEnvs_shared (envs : List EnvironmentComponents) (provisionedClouds : List String)
    (c c' : Cluster) (h : (self.allocateEnvs out envs provisionedClouds c).result = .ok c') :
    c'.envs = c.envs ++ envs.map EnvironmentComponents.env
      ∧ ∀ front last, envs = front ++ [last] →
        (self.sharedLaunch out last).result = .ok c'.sharedStorage := by
  induction envs generalizing provisionedClouds c with
  | nil =>
      rw [← Except.ok.inj h]
      refine ⟨(List.append_nil _).symm, fun front last hsplit => ?_⟩
      exact absurd hsplit.symm (List.append_ne_nil_of_right_ne_nil _ (List.cons_ne_nil _ _))
  | cons env envs ih =>
      rcases allocateEnvs_cons self out env envs provisionedClouds c c' h with
        ⟨launched, hlaunched, hrest, _⟩
      rcases ih _ _ hrest with ⟨henvs, hlast⟩
      have hjoined : (joined c env launched).envs = c.envs ++ [env.env] :=
        (joinNodes_members _ launched.nodes).2.1
      refine ⟨?_, fun front last hsplit => ?_⟩
      · rw [henvs, hjoined, List.append_assoc]
        rfl
      · cases front with
        | cons e front => exact hlast front last (List.cons.inj hsplit).2
        | nil =>
            -- the environment is the last one, and the loop is over
            rcases List.cons.inj hsplit with ⟨rfl, rfl⟩
            have hfinal : c'.sharedStorage = launched.sharedStorage := by
              rw [← Except.ok.inj hrest]
              exact joinNodes_sharedStorage _ launched.nodes
            rw [hfinal]
            exact (allocateEnv_shared self out env provisionedClouds c.topoMap launched
              hlaunched).1

/-- The cluster in hand at the end is the one that is saved. -/
theorem allocateEnvs_shows (envs : List EnvironmentComponents) (provisionedClouds : List String)
    (c c' : Cluster) (dir : ClustersDir) (hshows : Shows dir c)
    (h : (self.allocateEnvs out envs provisionedClouds c).result = .ok c') :
    Shows (dir.after (self.allocateEnvs out envs provisionedClouds c).trace) c' := by
  induction envs generalizing provisionedClouds c dir with
  | nil =>
      rw [← Except.ok.inj h]
      exact hshows
  | cons env envs ih =>
      rcases allocateEnvs_cons self out env envs provisionedClouds c c' h with
        ⟨launched, _, hrest, htrace⟩
      rw [htrace, shows_after_launch]
      exact ih _ _ (dir.save (joined c env launched)) (shows_save dir _) hrest

end Launch

section Teardown

variable (self : DeProvisioning) (c : Cluster)

/-- A teardown up to the shared volumes of an environment. -/
def DeProvisioning.cleanBefore (env : Environment) : Command AbstractCloud := do
  let config ← ofExcept (self.loadCloud env.cloud)
  let regionConfig ← ofExcept (regionGet config env.region)
  let ms ← ofExcept (initializeServer self.metrics regionConfig)
  let cloud ← ofExcept
    (createCloudFromStr (self.outside.clouds env) env.cloud self.clusterName regionConfig)
  ms.deregisterCluster self.metrics c.clusterName
  if isPersistent cloud then self.cleanGroups (self.outside.schedule env) c env
  if !(provisionedIn c env).isEmpty then
    terminateInstancesOf cloud (self.outside.schedule env) (provisionedIn c env) true
  pure cloud

/-- The shared volumes of the cluster, by one cloud. -/
def cleanStorage (cloud : AbstractCloud) : Command Unit := do
  let _ ← terminateStorageInstances cloud c.sharedStorage
  pure ()

theorem cleanEnv_eq (env : Environment) (hdry : self.dryRun = false) :
    self.cleanEnv c env = (self.cleanBefore c env >>= cleanStorage c) := by
  unfold DeProvisioning.cleanEnv DeProvisioning.cleanBefore
  rw [hdry]
  simp only [bind_assoc, Bool.not_false, Bool.and_true]
  congr 1
  funext config
  congr 1
  funext regionConfig
  congr 1
  funext ms
  congr 1
  funext cloud
  congr 1
  funext u
  -- the two tests are the same ones, and the end is the same in every case
  by_cases hpersistent : isPersistent cloud = true
  · by_cases hnodes : (!(provisionedIn c env).isEmpty) = true
    · simp only [if_pos hpersistent, if_pos hnodes, if_neg Bool.false_ne_true, bind_assoc,
        pure_bind]
      rfl
    · simp only [if_pos hpersistent, if_neg hnodes, if_neg Bool.false_ne_true, bind_assoc,
        pure_bind]
      rfl
  · by_cases hnodes : (!(provisionedIn c env).isEmpty) = true
    · simp only [if_neg hpersistent, if_pos hnodes, if_neg Bool.false_ne_true, bind_assoc,
        pure_bind]
      rfl
    · simp only [if_neg hpersistent, if_neg hnodes, if_neg Bool.false_ne_true, pure_bind]
      rfl

/-- A cloud has a class for a volume. -/
def implements (cloud : AbstractCloud) (s : VirtualStorage) : Bool :=
  match createStorage cloud.cli s with
  | .ok _ => true
  | .error _ => false

/-- What a teardown does in each environment; after an exception, nothing. -/
def DeProvisioning.segments : List Environment → List (List Event)
  | [] => []
  | env :: rest =>
      (self.cleanEnv c env).trace ::
        match (self.cleanEnv c env).result with
        | .ok _ => DeProvisioning.segments rest
        | .error _ => rest.map (fun _ => [])

/-- The volumes of a list that each environment's cloud gets to. A cloud gets to
    those before the first one that it has no class for; the environments after
    that, or after another exception, are not reached. -/
def DeProvisioning.getsTo (shelf : List VirtualStorage) :
    List Environment → List (List VirtualStorage)
  | [] => []
  | env :: rest =>
      match (self.cleanBefore c env).result with
      | .error _ => [] :: rest.map (fun _ => [])
      | .ok cloud =>
          shelf.takeWhile (implements cloud) ::
            if shelf.all (implements cloud) then DeProvisioning.getsTo shelf rest
            else rest.map (fun _ => [])

theorem flatten_blank {α : Type} (envs : List α) :
    (envs.map (fun _ => ([] : List Event))).flatten = [] := by
  rw [List.flatten_eq_nil_iff, List.forall_mem_map]
  exact fun _ _ => rfl

theorem cleanEnvs_trace (envs : List Environment) :
    (self.cleanEnvs c envs).trace = (self.segments c envs).flatten := by
  induction envs with
  | nil => rfl
  | cons env envs ih =>
      rw [DeProvisioning.cleanEnvs, DeProvisioning.segments, List.flatten_cons]
      cases hres : (self.cleanEnv c env).result with
      | ok u =>
          rw [bind_ok _ _ u hres, ih]
      | error e =>
          rw [bind_error _ _ e hres]
          change _ = _ ++ (envs.map (fun _ => ([] : List Event))).flatten
          rw [flatten_blank, List.append_nil]

/-- What a teardown does in each environment of the cluster: nothing when the
    artifacts cannot be archived. -/
def DeProvisioning.cleaned : List (List Event) :=
  match self.archive with
  | .ok _ => self.segments c c.envs
  | .error _ => c.envs.map (fun _ => [])

/-- A teardown saves, goes over the environments, and removes the file if it
    gets that far. -/
theorem clean_trace :
    ∃ last, (self.clean c).trace = .saveCluster c :: ((self.cleaned c).flatten ++ last)
      ∧ (last = [] ∨ last = [.removeClusterYaml self.clusterName]) := by
  unfold DeProvisioning.clean DeProvisioning.cleaned
  cases harchive : self.archive with
  | error e =>
      refine ⟨[], ?_, Or.inl rfl⟩
      dsimp only
      rw [flatten_blank, bind_ok _ _ () rfl, bind_error _ _ e rfl]
      rfl
  | ok u =>
      cases hres : (self.cleanEnvs c c.envs).result with
      | ok u =>
          refine ⟨[.removeClusterYaml self.clusterName], ?_, Or.inr rfl⟩
          rw [← cleanEnvs_trace, bind_ok _ _ () rfl, bind_ok _ _ () rfl, bind_ok _ _ u hres]
          rfl
      | error e =>
          refine ⟨[], ?_, Or.inl rfl⟩
          rw [← cleanEnvs_trace, bind_ok _ _ () rfl, bind_ok _ _ () rfl, bind_error _ _ e hres,
            List.append_nil]
          rfl

section Destroyed

variable (cloud : AbstractCloud)

/-- Letting go of a machine's volumes destroys no shared one. -/
theorem terminateInstance_unshared (n : Node) (flag : Bool) :
    Triple (fun e => e.destroyedShared? = none) (fun _ => True)
      (terminateInstance cloud n flag) := by
  have hdetach : ∀ s, Triple (fun e => e.destroyedShared? = none) (fun _ => True)
      (detachStorage cloud n.vm s flag) := by
    intro s
    refine triple_tell_bind _ _ _ _ rfl (triple_bind _ (fun _ => True) _ _ _
      (triple_step _ _ _ _ (fun _ _ => triple_step _ _ _ _ (fun _ _ => triple_pure _ _ _ trivial)))
      (fun gs _ => ?_))
    split
    · exact triple_tell_bind _ _ _ _ rfl
        (triple_step _ _ _ _ (fun _ _ => triple_pure _ _ _ trivial))
    · exact triple_pure _ _ _ trivial
  refine triple_step _ _ _ _ (fun _ _ => triple_tell_bind _ _ _ _ rfl
    (triple_step _ _ _ _ (fun _ _ => ?_)))
  exact triple_bind _ _ _ _ _ (processStorage_spec _ _ hdetach n.vm)
    (fun _ _ => triple_pure _ _ _ trivial)

theorem terminateInstances_unshared (σ : Schedule Event) (members : List Node) (flag : Bool) :
    Triple (fun e => e.destroyedShared? = none) (fun _ => True)
      (terminateInstancesOf cloud σ members flag) := by
  -- the nodes are terminated one by one, or only the first is
  have hpool : Triple (fun e => e.destroyedShared? = none) (fun _ => True)
      (terminateInstances cloud σ members flag) := by
    unfold terminateInstances
    rw [runParallel_nodes]
    refine triple_bind _ (fun _ => True) _ _ _ ?_ (fun _ _ => triple_pure _ _ _ trivial)
    refine triple_mono _ _ _ _ _ (fun _ he => he) (fun _ _ => trivial)
      (triple_parallel _ _ (fun _ => True) _ (fun t ht => ?_))
    rcases List.mem_map.mp ht with ⟨n, _, rfl⟩
    exact terminateInstance_unshared cloud n false
  have hfirst : ∀ destroy : VirtualMachine → Except Exn Unit,
      Triple (fun e => e.destroyedShared? = none) (fun _ => True)
        (destroyFirst destroy members) := by
    intro destroy
    cases members with
    | nil => exact triple_raise _ _ _
    | cons n ns =>
        exact triple_tell_bind _ _ _ _ rfl (triple_ofExcept _ _ _ (fun _ _ => trivial))
  unfold terminateInstancesOf
  split
  · exact hpool
  · exact hpool
  · split
    · exact triple_raise _ _ _
    · exact triple_tell _ _ rfl
  · exact hfirst _
  · exact hfirst _
  · exact hfirst _
  · exact hfirst _
  · exact hfirst _
  · exact triple_raise _ _ _

theorem cleanBefore_unshared (env : Environment) :
    Triple (fun e => e.destroyedShared? = none) (fun _ => True) (self.cleanBefore c env) := by
  refine triple_step _ _ _ _ (fun config _ => triple_step _ _ _ _ (fun regionConfig _ =>
    triple_step _ _ _ _ (fun ms _ => triple_step _ _ _ _ (fun cloud _ => ?_))))
  -- none of the three parts destroys a storage that is shared
  have hderegister : Triple (fun e => e.destroyedShared? = none) (fun _ => True)
      (ms.deregisterCluster self.metrics c.clusterName) := by
    unfold MetricsServer.deregisterCluster
    cases ms.sshClient with
    | none => exact triple_pure _ _ _ trivial
    | some host =>
        dsimp only
        split
        · exact triple_tell_bind _ _ _ _ rfl (triple_ofExcept _ _ _ (fun _ _ => trivial))
        · exact triple_ofExcept _ _ _ (fun _ _ => trivial)
  have hgroups : Triple (fun e => e.destroyedShared? = none) (fun _ => True)
      (self.cleanGroups (self.outside.schedule env) c env) := by
    refine triple_step _ _ _ _ (fun groups _ => triple_bind _ (fun _ => True) _ _ _ ?_
      (fun _ _ => triple_pure _ _ _ trivial))
    refine triple_mono _ _ _ _ _ (fun _ he => he) (fun _ _ => trivial)
      (triple_parallel _ _ (fun _ => True) _ (fun t ht => ?_))
    rcases List.mem_map.mp ht with ⟨g, _, rfl⟩
    exact triple_ofExcept _ _ _ (fun _ _ => trivial)
  have hend : Triple (fun e => e.destroyedShared? = none) (fun _ => True)
      (do
        if !(provisionedIn c env).isEmpty then
          terminateInstancesOf cloud (self.outside.schedule env) (provisionedIn c env) true
        pure cloud) := by
    split
    · exact triple_bind _ _ _ _ _ (terminateInstances_unshared cloud _ _ _)
        (fun _ _ => triple_pure _ _ _ trivial)
    · exact triple_pure _ _ _ trivial
  refine triple_bind _ _ _ _ _ hderegister (fun _ _ => ?_)
  by_cases hpersistent : isPersistent cloud = true
  · rw [if_pos hpersistent]
    exact triple_bind _ _ _ _ _ hgroups (fun _ _ => hend)
  · rw [if_neg hpersistent]
    exact hend

theorem terminateStorage_cases (hperf : Performs cloud.api) (s : VirtualStorage) :
    (implements cloud s = true ∧ (terminateStorage cloud s).trace = [.destroyVolume none s]
        ∧ ∃ o, (terminateStorage cloud s).result = .ok o)
      ∨ (implements cloud s = false ∧ (terminateStorage cloud s).trace = []
        ∧ ∃ e, (terminateStorage cloud s).result = .error e) := by
  unfold implements terminateStorage newStorage
  cases hclass : createStorage cloud.cli s with
  | error e => exact Or.inr ⟨rfl, rfl, e, rfl⟩
  | ok o =>
      refine Or.inl ⟨rfl, ?_⟩
      rw [bind_ok _ _ o rfl, hperf.newStorage, bind_ok _ _ () rfl]
      have hdestroy : cloud.api.destroyVolume o (storageOf cloud.clusterName o s) = .ok () :=
        hperf.destroyVolume _ _
      rw [bind_ok _ _ (o, storageOf cloud.clusterName o s) rfl, bind_ok _ _ () rfl]
      dsimp only
      rw [hdestroy]
      exact ⟨rfl, _, rfl⟩

/-- A cloud destroys the volumes before the first one it has no class for. -/
theorem terminateStorage_spec (hperf : Performs cloud.api) (shelf : List VirtualStorage) :
    destroyedShared (terminateStorageInstances cloud shelf).trace
        = shelf.takeWhile (implements cloud)
      ∧ ((∃ l, (terminateStorageInstances cloud shelf).result = .ok l)
        ↔ shelf.all (implements cloud) = true) := by
  unfold terminateStorageInstances
  induction shelf with
  | nil => exact ⟨rfl, fun _ => rfl, fun _ => ⟨[], rfl⟩⟩
  | cons s shelf ih =>
      rw [processStorageInstances, List.takeWhile_cons, List.all_cons]
      rcases terminateStorage_cases cloud hperf s with ⟨hs, htrace, o, ho⟩ | ⟨hs, htrace, e, he⟩
      · rw [bind_ok _ _ o ho, htrace, hs, if_pos rfl, Bool.true_and, ← ih.2]
        cases hrest : (processStorageInstances (terminateStorage cloud) shelf).result with
        | ok l =>
            rw [bind_ok _ _ l hrest]
            refine ⟨?_, fun _ => ⟨l, rfl⟩, fun _ => ⟨_, rfl⟩⟩
            rw [← ih.1]
            change s :: destroyedShared (_ ++ []) = _
            rw [List.append_nil]
        | error e =>
            rw [bind_error _ _ e hrest, ← ih.1]
            exact ⟨rfl, fun ⟨l, hl⟩ => (nomatch hl), fun ⟨l, hl⟩ => (nomatch hl)⟩
      · rw [bind_error _ _ e he, htrace, hs]
        exact ⟨rfl, fun ⟨l, hl⟩ => (nomatch hl), fun h => (nomatch h)⟩

end Destroyed

theorem cleanStorage_spec (cloud : AbstractCloud) (hperf : Performs cloud.api) :
    destroyedShared (cleanStorage c cloud).trace
        = c.sharedStorage.takeWhile (implements cloud)
      ∧ ((cleanStorage c cloud).result = .ok ()
        ↔ c.sharedStorage.all (implements cloud) = true) := by
  rcases terminateStorage_spec cloud hperf c.sharedStorage with ⟨htrace, hresult⟩
  unfold cleanStorage
  rw [← htrace, ← hresult]
  cases hres : (terminateStorageInstances cloud c.sharedStorage).result with
  | ok l =>
      rw [bind_ok _ _ l hres]
      refine ⟨?_, fun _ => ⟨l, rfl⟩, fun _ => rfl⟩
      change destroyedShared (_ ++ []) = _
      rw [List.append_nil]
  | error e =>
      rw [bind_error _ _ e hres]
      exact ⟨rfl, fun h => (nomatch h), fun ⟨l, hl⟩ => (nomatch hl)⟩

/-- What a teardown destroys in one environment. -/
theorem cleanEnv_destroys (env : Environment) (hdry : self.dryRun = false) :
    ((∃ e, (self.cleanBefore c env).result = .error e)
        ∧ destroyedShared (self.cleanEnv c env).trace = []
        ∧ ∃ e, (self.cleanEnv c env).result = .error e)
      ∨ ∃ cloud, (self.cleanBefore c env).result = .ok cloud
        ∧ destroyedShared (self.cleanEnv c env).trace = destroyedShared (cleanStorage c cloud).trace
        ∧ (self.cleanEnv c env).result = (cleanStorage c cloud).result := by
  have hbefore : destroyedShared (self.cleanBefore c env).trace = [] :=
    List.filterMap_eq_nil_iff.mpr (cleanBefore_unshared self c env).trace
  rw [cleanEnv_eq self c env hdry]
  cases hres : (self.cleanBefore c env).result with
  | error e =>
      rw [bind_error _ _ e hres]
      exact Or.inl ⟨⟨e, rfl⟩, hbefore, e, rfl⟩
  | ok cloud =>
      rw [bind_ok _ _ cloud hres]
      refine Or.inr ⟨cloud, rfl, ?_, rfl⟩
      rw [destroyedShared, List.filterMap_append]
      exact congrArg (· ++ _) hbefore

/-- The clouds of a teardown do what they are asked. -/
def DeProvisioning.Obeyed (d : DeProvisioning) : Prop :=
  ∀ env t, Performs (d.outside.clouds env t)

theorem performs_of_cleanBefore (hobeyed : self.Obeyed) (env : Environment) (cloud : AbstractCloud)
    (h : (self.cleanBefore c env).result = .ok cloud) : Performs cloud.api := by
  unfold DeProvisioning.cleanBefore at h
  rcases bind_result_ok _ _ _ h with ⟨config, _, h⟩
  rcases bind_result_ok _ _ _ h with ⟨regionConfig, _, h⟩
  rcases bind_result_ok _ _ _ h with ⟨ms, _, h⟩
  rcases bind_result_ok _ _ _ h with ⟨made, hmade, h⟩
  rcases bind_result_ok _ _ _ h with ⟨_, _, h⟩
  -- whichever nodes are cleaned, the cloud is the one that was made
  have hcloud : made = cloud := by
    by_cases hpersistent : isPersistent made = true
    · rw [if_pos hpersistent] at h
      rcases bind_result_ok _ _ _ h with ⟨_, _, h⟩
      by_cases hnodes : (!(provisionedIn c env).isEmpty) = true
      · rw [if_pos hnodes] at h
        rcases bind_result_ok _ _ _ h with ⟨_, _, h⟩
        exact Except.ok.inj h
      · rw [if_neg hnodes] at h
        exact Except.ok.inj h
    · rw [if_neg hpersistent] at h
      by_cases hnodes : (!(provisionedIn c env).isEmpty) = true
      · rw [if_pos hnodes] at h
        rcases bind_result_ok _ _ _ h with ⟨_, _, h⟩
        exact Except.ok.inj h
      · rw [if_neg hnodes] at h
        exact Except.ok.inj h
  rcases except_bind_eq_ok _ _ _ hmade with ⟨t, _, hmade⟩
  rcases except_bind_eq_ok _ _ _ hmade with ⟨cli, _, hmade⟩
  rcases except_bind_eq_ok _ _ _ hmade with ⟨_, _, hmade⟩
  rw [← hcloud, ← Except.ok.inj hmade]
  exact hobeyed env t

/-- What a teardown destroys. -/
theorem destroyedShared_segments (hdry : self.dryRun = false) (hobeyed : self.Obeyed)
    (envs : List Environment) :
    (self.segments c envs).map destroyedShared = self.getsTo c c.sharedStorage envs := by
  induction envs with
  | nil => rfl
  | cons env envs ih =>
      rw [DeProvisioning.segments, DeProvisioning.getsTo, List.map_cons]
      rcases cleanEnv_destroys self c env hdry with ⟨⟨e, he⟩, htrace, e', he'⟩ | ⟨cloud, hcloud, h⟩
      · rw [he, he', htrace, List.map_map]
        rfl
      · rcases cleanStorage_spec c cloud (performs_of_cleanBefore self c hobeyed env cloud hcloud)
          with ⟨hdestroyed, hok⟩
        rw [hcloud, h.1, h.2, hdestroyed]
        dsimp only
        cases hres : (cleanStorage c cloud).result with
        | ok u => 
            rw [if_pos (hok.mp hres), ih]
        | error e =>
            have hsome : ¬ c.sharedStorage.all (implements cloud) = true := fun hall => by
              rw [hok.mpr hall] at hres
              exact nomatch hres
            rw [if_neg hsome, List.map_map]
            rfl

/-- The same for a whole teardown, which begins with the archive. -/
def DeProvisioning.comesTo (shelf : List VirtualStorage) (envs : List Environment) :
    List (List VirtualStorage) :=
  match self.archive with
  | .ok _ => self.getsTo c shelf envs
  | .error _ => envs.map (fun _ => [])

theorem destroyedShared_cleaned (hdry : self.dryRun = false) (hobeyed : self.Obeyed) :
    (self.cleaned c).map destroyedShared = self.comesTo c c.sharedStorage c.envs := by
  unfold DeProvisioning.cleaned DeProvisioning.comesTo
  cases harchive : self.archive with
  | ok u => exact destroyedShared_segments self c hdry hobeyed c.envs
  | error e =>
      dsimp only
      rw [List.map_map]
      rfl

theorem mem_blank {α : Type} (envs : List α) (shelf reached : List VirtualStorage)
    (h : reached ∈ envs.map (fun _ => ([] : List VirtualStorage))) : reached ⊆ shelf := by
  rcases List.mem_map.mp h with ⟨_, _, rfl⟩
  exact List.nil_subset _

theorem getsTo_subset (shelf : List VirtualStorage) (envs : List Environment) :
    ∀ reached ∈ self.getsTo c shelf envs, reached ⊆ shelf := by
  induction envs with
  | nil => exact fun reached h => absurd h List.not_mem_nil
  | cons env envs ih =>
      intro reached h
      rw [DeProvisioning.getsTo] at h
      cases hres : (self.cleanBefore c env).result with
      | error e =>
          rw [hres] at h
          rcases List.mem_cons.mp h with rfl | h
          · exact List.nil_subset _
          · exact mem_blank envs shelf reached h
      | ok cloud =>
          rw [hres] at h
          rcases List.mem_cons.mp h with rfl | h
          · exact (List.takeWhile_sublist _).subset
          · by_cases hall : shelf.all (implements cloud) = true
            · rw [if_pos hall] at h
              exact ih reached h
            · rw [if_neg hall] at h
              exact mem_blank envs shelf reached h

theorem comesTo_subset (shelf : List VirtualStorage) (envs : List Environment) :
    ∀ reached ∈ self.comesTo c shelf envs, reached ⊆ shelf := by
  unfold DeProvisioning.comesTo
  cases self.archive with
  | ok u => exact getsTo_subset self c shelf envs
  | error e => exact fun reached h => mem_blank envs shelf reached h

end Teardown

section Accounts

variable (p : Provisioning) (out : Outside) (d : DeProvisioning)

/-- What the last environment's cloud gave for its shared volumes; the list of
    before when there is no environment. -/
def Provisioning.shelf (c : Cluster) : List VirtualStorage :=
  match p.envs.getLast? with
  | none => c.sharedStorage
  | some env => ((p.sharedLaunch out env).result.toOption).getD []

/-- What was launched in each environment of the saved cluster; those that it
    had before come first. -/
def Provisioning.launches (c : Cluster) : List (List VirtualStorage) :=
  c.envs.map (fun _ => []) ++ p.envs.map (p.launchedIn out)

/-- Every shared volume that was launched is in the saved list, and a teardown
    has the volumes of each environment destroyed by its own cloud, each of
    them once, and no other volume. -/
structure Accounted (p : Provisioning) (out : Outside) (d : DeProvisioning) (c f : Cluster) :
    Prop where
  recorded : ∀ env ∈ p.envs, ∀ v ∈ p.launchedIn out env, v ∈ f.sharedStorage
  destroyed : List.Forall₂
    (fun segment launched => (destroyedShared segment).Perm launched)
    (d.cleaned f) (p.launches out c)

theorem allocate_shelf (opens opens' : Cluster → Except Exn Unit) (dir : ClustersDir)
    (c c' f : Cluster) (hload : loadCluster opens dir p.clusterName = .ok c)
    (halloc : (p.allocate out opens dir).result = .ok c')
    (hsaved : loadCluster opens' (dir.after (p.allocate out opens dir).trace) p.clusterName
      = .ok f) :
    f.envs = c.envs ++ p.envs.map EnvironmentComponents.env
      ∧ f.sharedStorage = p.shelf out c := by
  unfold Provisioning.allocate at halloc hsaved
  rw [hload, bind_ok _ _ c rfl] at halloc hsaved
  dsimp only at halloc hsaved
  rw [trace_ofExcept, List.nil_append, asXbench_trace] at hsaved
  have hloop := asXbench_ok _ c' halloc
  rcases shows_load opens dir p.clusterName c hload with ⟨hshows, hname⟩
  -- the file shows the cluster in hand at the end
  have hshown := allocateEnvs_shows p out p.envs [] c c' dir hshows hloop
  have hname' : c'.clusterName = p.clusterName :=
    ((allocateEnvs_accounts p out p.envs [] c dir hshows).returns c' hloop).clusterName.trans hname
  have hfile := loadCluster_ok opens' _ p.clusterName f hsaved
  rw [← hname'] at hfile
  have hf : f.envs = c'.envs ∧ f.sharedStorage = c'.sharedStorage := by
    rcases hshown with hshown | hshown
    · rw [Option.some.inj (hfile.symm.trans hshown)]
      exact ⟨rfl, rfl⟩
    · rw [Option.some.inj (hfile.symm.trans hshown)]
      exact ⟨rfl, rfl⟩
  rcases allocateEnvs_shared p out p.envs [] c c' hloop with ⟨henvs, hlast⟩
  refine ⟨hf.1.trans henvs, hf.2.trans ?_⟩
  unfold Provisioning.shelf
  rcases List.eq_nil_or_concat p.envs with hnil | ⟨front, last, hsplit⟩
  · rw [hnil] at hloop ⊢
    rw [← Except.ok.inj hloop]
    rfl
  · rw [List.concat_eq_append] at hsplit
    rw [hsplit, List.getLast?_concat]
    dsimp only
    rw [hlast front last hsplit]
    rfl

/-- A volume that the last environment did not launch is not recorded. -/
theorem unaccounted_of_lost (c f : Cluster) (hshelf : f.sharedStorage = p.shelf out c)
    (env : EnvironmentComponents) (henv : env ∈ p.envs) (v : VirtualStorage)
    (hv : v ∈ p.launchedIn out env) (hlost : v ∉ p.shelf out c) : ¬ Accounted p out d c f :=
  fun h => hlost (hshelf ▸ h.recorded env henv v hv)

end Accounts

section Lost

/-- A provider that gives each volume an identifier after its name. -/
def volumesApi : CloudApi :=
  { obedientApi with
    createVolume := fun _ s =>
      { made := some ("vol-" ++ s.name)
        outcome := .ok { s with id := "vol-" ++ s.name }
        returned := fun _ hv => by
          rw [← Except.ok.inj hv]
          exact ⟨rfl, rfl, fun _ hid => Option.some.inj hid⟩ } }

theorem performs_volumes : Performs volumesApi :=
  ⟨fun _ _ => rfl, fun _ _ => rfl, fun _ _ => rfl⟩

def volumes : Outside :=
  ⟨fun _ _ => volumesApi, fun _ => Schedule.sequential Event⟩

def sharedVolume (name id : String) : VirtualStorage :=
  ⟨.virtualStorage, 100, 0, some "gp3", "", "us-west-2a", name, id, 0⟩

/-- The driver's environment, with a shared volume. -/
def westEnvironment : EnvironmentComponents :=
  { awsEnvironment with sharedStorage := [sharedVolume "west" ""] }

/-- Another environment, with a shared volume of its own. -/
def eastEnvironment : EnvironmentComponents where
  env := ⟨"env_1", "aws", "cloud.aws", "us-east-1"⟩
  regionConfig := Dict.empty
  components := Dict.empty
  sharedStorage := [sharedVolume "east" ""]

def oneShared : Provisioning :=
  ⟨"dev", "driver", [westEnvironment]⟩

def twoShared : Provisioning :=
  ⟨"dev", "driver", [westEnvironment, eastEnvironment]⟩

/-- The teardown that follows. -/
def sharedTeardown : DeProvisioning :=
  { devTeardown with
    loadCloud := fun _ => .ok (Dict.ofList [("us-west-2", .dict []), ("us-east-1", .dict [])])
    outside := volumes }

theorem obeyed_sharedTeardown : sharedTeardown.Obeyed :=
  fun _ _ => performs_volumes

end Lost

end Xbench
