import Xbench.Commands.Membership

/-!
# Allocating Again

An allocation that fails, the same allocation afterwards, and the one that did
not fail at all: whether the last two leave the same cluster file.

The loop begins an environment by appending it to the list of the cluster, and
ends it by saving. What a failed run saved is loaded by the next one, which
appends the same environments once more. The only failed runs that leave the
file alone are those that raise in the first environment: an instance that is
merely missing is saved, and so is every environment before a later one that
raises.

The two successful runs need not get the same answers from the clouds. They are
compared without the identifiers and the addresses, and it is asked that the
clouds answer alike up to these.

## Main definitions

* `Cluster.anonymous`: A cluster without identifiers and addresses.
* `Launched.anonymous`: What launching gives, without them.
* `AnswerAlike`: The clouds launch the same up to them.
* `LikeFresh`: A cluster file is as one of a single run.
* `EndsInFirst`: A run raises in the first environment.

## Theorems

* `joined_anonymous`: Joining does not look at identifiers.
* `allocateEnvs_alike`: Alike answers give alike clusters.
* `allocateEnvs_file`: What a run that returns has saved.
* `allocateEnvs_listed`: A run that returns lists every environment.
* `allocate_unsaved`: A run that raises in the first environment saves nothing.
* `allocate_saved`: Every other failed run has saved an environment.
* `retried_like_fresh_iff`: When allocating again is like allocating once.
* `retried_driver_twice`: An environment is listed twice.
-/

namespace Xbench

open Effect

section Anonymous

def VirtualStorage.anonymous (s : VirtualStorage) : VirtualStorage :=
  { s with id := "" }

/-- A machine without what its cloud chose. -/
def VirtualMachine.anonymous (vm : VirtualMachine) : VirtualMachine :=
  { vm with
    id := none
    network := none
    storage := vm.storage.map VirtualStorage.anonymous
    storageList := vm.storageList.map VirtualStorage.anonymous }

def Node.anonymous (n : Node) : Node :=
  ⟨n.vm.anonymous⟩

/-- A cluster without identifiers and addresses. -/
def Cluster.anonymous (c : Cluster) : Cluster :=
  { c with
    members := c.members.mapValues Node.anonymous
    sharedStorage := c.sharedStorage.map VirtualStorage.anonymous }

/-- What launching gives, without them. -/
def Launched.anonymous (launched : Launched) : Launched :=
  ⟨launched.sharedStorage.map VirtualStorage.anonymous,
    launched.nodes.map (Option.map Node.anonymous)⟩

theorem joinNodes_anonymous (c : Cluster) (l : List (Option Node)) :
    (joinNodes c l).anonymous = joinNodes c.anonymous (l.map (Option.map Node.anonymous)) := by
  induction l generalizing c with
  | nil => rfl
  | cons o l ih =>
      cases o with
      | none => exact ih c
      | some n =>
          rw [joinNodes, ih, List.map_cons, Option.map_some, joinNodes]
          -- the node is added under its name, which it keeps
          have hadd : ({ c.addMember n.vm.name n with state := .allocated } : Cluster).anonymous
              = { c.anonymous.addMember n.anonymous.vm.name n.anonymous with
                  state := .allocated } := by
            unfold Cluster.addMember Cluster.anonymous
            dsimp only
            rw [Dict.mapValues_set]
            rfl
          rw [hadd]

/-- Joining does not look at identifiers. -/
theorem joined_anonymous (c : Cluster) (env : EnvironmentComponents) (launched : Launched) :
    (joined c env launched).anonymous = joined c.anonymous env launched.anonymous :=
  joinNodes_anonymous _ _

theorem asBase_anonymous (n : Node) :
    (⟨n.vm.asBase⟩ : Node).anonymous = ⟨n.anonymous.vm.asBase⟩ := by
  unfold Node.anonymous VirtualMachine.anonymous VirtualMachine.asBase
  dsimp only
  rw [Option.map_map, Option.map_map, List.map_map, List.map_map]
  rfl

theorem asFile_anonymous (c : Cluster) : c.asFile.anonymous = c.anonymous.asFile := by
  unfold Cluster.asFile Cluster.anonymous
  dsimp only
  rw [Dict.mapValues_mapValues, Dict.mapValues_mapValues]
  simp only [asBase_anonymous]

end Anonymous

variable (self : Provisioning)

/-- The clouds launch the same in every environment, up to identifiers and
    addresses. -/
def AnswerAlike (out out' : Outside) : Prop :=
  ∀ env provisionedClouds topoMap,
    (self.allocateEnv out env provisionedClouds topoMap).result.map Launched.anonymous
      = (self.allocateEnv out' env provisionedClouds topoMap).result.map Launched.anonymous

section Loop

variable (out : Outside)

/-- What the loop does with one environment. -/
theorem allocateEnvs_ok (env : EnvironmentComponents) (rest : List EnvironmentComponents)
    (provisionedClouds : List String) (c c' : Cluster)
    (h : (self.allocateEnvs out (env :: rest) provisionedClouds c).result = .ok c') :
    ∃ launched, (self.allocateEnv out env provisionedClouds c.topoMap).result = .ok launched
      ∧ none ∉ launched.nodes
      ∧ (self.allocateEnvs out rest (seen env provisionedClouds) (joined c env launched)).result
        = .ok c'
      ∧ (self.allocateEnvs out (env :: rest) provisionedClouds c).trace
        = (self.allocateEnv out env provisionedClouds c.topoMap).trace
          ++ .saveCluster (joined c env launched)
            :: (self.allocateEnvs out rest (seen env provisionedClouds)
              (joined c env launched)).trace := by
  rw [Provisioning.allocateEnvs] at h ⊢
  rcases bind_result_ok _ _ _ h with ⟨launched, hlaunched, hrest⟩
  rw [bind_ok _ _ launched hlaunched]
  by_cases hnone : none ∈ launched.nodes
  · rw [if_pos hnone] at hrest
    cases hrest
  · rw [if_neg hnone] at hrest ⊢
    exact ⟨launched, hlaunched, hnone, hrest, rfl⟩

theorem joined_topoMap (c : Cluster) (env : EnvironmentComponents) (launched : Launched) :
    (joined c env launched).topoMap = c.topoMap ∧ (joined c env launched).clusterName
      = c.clusterName :=
  ⟨(joinNodes_members _ launched.nodes).2.2.2.1, (joinNodes_members _ launched.nodes).2.2.1⟩

/-- Alike answers give alike clusters. -/
theorem allocateEnvs_alike (out' : Outside) (halike : AnswerAlike self out out')
    (envs : List EnvironmentComponents) (provisionedClouds : List String) (c c' d d' : Cluster)
    (hc : c.anonymous = c'.anonymous)
    (hd : (self.allocateEnvs out envs provisionedClouds c).result = .ok d)
    (hd' : (self.allocateEnvs out' envs provisionedClouds c').result = .ok d') :
    d.anonymous = d'.anonymous := by
  induction envs generalizing provisionedClouds c c' with
  | nil =>
      rw [← Except.ok.inj hd, ← Except.ok.inj hd']
      exact hc
  | cons env rest ih =>
      rcases allocateEnvs_ok self out env rest _ c d hd with ⟨launched, hlaunched, _, hrest, _⟩
      rcases allocateEnvs_ok self out' env rest _ c' d' hd' with
        ⟨launched', hlaunched', _, hrest', _⟩
      have htopo : c.anonymous.topoMap = c'.anonymous.topoMap := congrArg Cluster.topoMap hc
      change c.topoMap = c'.topoMap at htopo
      have hsame := halike env provisionedClouds c.topoMap
      rw [hlaunched, htopo, hlaunched'] at hsame
      refine ih _ _ _ ?_ hrest hrest'
      rw [joined_anonymous, joined_anonymous, hc, Except.ok.inj hsame]

/-- What a run that returns has saved. -/
theorem allocateEnvs_file (envs : List EnvironmentComponents) (provisionedClouds : List String)
    (c c' : Cluster) (dir : ClustersDir) (hfile : dir.file c.clusterName = some c.asFile)
    (h : (self.allocateEnvs out envs provisionedClouds c).result = .ok c') :
    (dir.after (self.allocateEnvs out envs provisionedClouds c).trace).file c.clusterName
      = some c'.asFile := by
  induction envs generalizing provisionedClouds c dir with
  | nil =>
      rw [← Except.ok.inj h]
      exact hfile
  | cons env rest ih =>
      rcases allocateEnvs_ok self out env rest _ c c' h with ⟨launched, _, _, hrest, htrace⟩
      rw [htrace, shows_after_launch, ← (joined_topoMap c env launched).2]
      exact ih _ (joined c env launched) (dir.save (joined c env launched)) (if_pos rfl) hrest

/-- A run that returns lists every environment. -/
theorem allocateEnvs_listed (envs : List EnvironmentComponents) (provisionedClouds : List String)
    (c c' : Cluster) (h : (self.allocateEnvs out envs provisionedClouds c).result = .ok c') :
    Attempts.listed (self.attempts out c.topoMap envs provisionedClouds)
      = envs.map (fun env => env.env) := by
  induction envs generalizing provisionedClouds c with
  | nil => rfl
  | cons env rest ih =>
      rcases allocateEnvs_ok self out env rest _ c c' h with ⟨launched, hlaunched, hnone, hrest, _⟩
      have hih := ih _ (joined c env launched) hrest
      rw [(joined_topoMap c env launched).1] at hih
      rw [Provisioning.attempts]
      simp only [hlaunched, if_neg hnone]
      rw [Attempts.listed, List.filter_cons_of_pos (by rw [cameBack, hlaunched]), List.map_cons,
        List.map_cons, ← hih]
      rfl

end Loop

section Retry

variable (out : Outside) (opens : Cluster → Except Exn Unit) (dir : ClustersDir) (c : Cluster)

/-- A run does not get past its first environment: the file cannot be loaded,
    or the environment raises. -/
def EndsInFirst : Prop :=
  (∃ e, opens c = .error e)
    ∨ ∃ env rest e, self.envs = env :: rest
      ∧ (self.allocateEnv out env [] c.topoMap).result = .error e

theorem allocate_loaded (hload : loadCluster opens dir self.clusterName = .ok c) :
    self.allocate out opens dir = asXbench (self.allocateEnvs out self.envs [] c) := by
  unfold Provisioning.allocate
  rw [bind_ok _ _ c hload]
  rfl

/-- A run that raises in the first environment saves nothing. -/
theorem allocate_unsaved (hfile : dir.file self.clusterName = some c)
    (h : EndsInFirst self out opens c) :
    dir.after (self.allocate out opens dir).trace = dir := by
  cases hopens : opens c with
  | error e =>
      have hload : loadCluster opens dir self.clusterName = .error e := by
        rw [loadCluster_file opens dir _ c hfile, hopens]
        rfl
      unfold Provisioning.allocate
      rw [bind_error _ _ e hload]
      rfl
  | ok u =>
      have hload : loadCluster opens dir self.clusterName = .ok c := by
        rw [loadCluster_file opens dir _ c hfile, hopens]
        rfl
      rw [allocate_loaded self out opens dir c hload, asXbench_trace]
      rcases h with ⟨e, he⟩ | ⟨env, rest, e, henvs, he⟩
      · rw [hopens] at he
        cases he
      · rw [henvs, Provisioning.allocateEnvs, bind_error _ _ e he]
        exact after_unwritten dir _ (allocateEnv_unwritten self out env [] c.topoMap)

/-- Every other failed run has saved an environment. -/
theorem allocate_saved (hfile : dir.file self.clusterName = some c) (e : Exn)
    (hfail : (self.allocate out opens dir).result = .error e)
    (h : ¬ EndsInFirst self out opens c) :
    ∃ c', (dir.after (self.allocate out opens dir).trace).file self.clusterName = some c'
      ∧ ∃ env listed, c'.envs = c.envs ++ env :: listed := by
  unfold EndsInFirst at h
  rw [not_or] at h
  have hname := dir.named self.clusterName c hfile
  cases hopens : opens c with
  | error e' => exact absurd ⟨e', hopens⟩ h.1
  | ok u =>
      have hload : loadCluster opens dir self.clusterName = .ok c := by
        rw [loadCluster_file opens dir _ c hfile, hopens]
        rfl
      rw [allocate_loaded self out opens dir c hload] at hfail ⊢
      rw [asXbench_trace]
      rcases (allocateEnvs_accounts self out self.envs [] c dir
        (shows_load opens dir self.clusterName c hload).1).shown with ⟨c₁, hshown, haccounts⟩
      -- the first environment came back, or the end would have been there
      have hlisted : ∃ env listed, c₁.envs = c.envs ++ env :: listed := by
        cases henvs : self.envs with
        | nil =>
            rw [henvs] at hfail
            cases hfail
        | cons env rest =>
            rw [haccounts.envs, henvs, Provisioning.attempts]
            cases hx : (self.allocateEnv out env [] c.topoMap).result with
            | error e' => exact absurd ⟨env, rest, e', henvs, hx⟩ h.2
            | ok launched =>
                rw [Attempts.listed, List.filter_cons_of_pos (by rw [cameBack, hx]), List.map_cons]
                exact ⟨_, _, rfl⟩
      rw [← hname, ← haccounts.clusterName]
      rcases hshown with hshown | hshown
      · exact ⟨c₁, hshown, hlisted⟩
      · exact ⟨c₁.asFile, hshown, hlisted⟩

/-- A cluster file is like the one of a single run: the same up to what the
    clouds chose, every environment listed once, and every member one that this
    run launched. -/
structure LikeFresh (p : Provisioning) (launched : List Node) (retried fresh : Cluster) : Prop where
  alike : retried.anonymous = fresh.anonymous
  once : retried.envs = p.envs.map (fun env => env.env)
  members : ∀ name n, retried.members.get? name = some n → ∃ m ∈ launched, n.vm = m.vm.asBase

end Retry

section Main

/-- What a run that returns leaves in the file it loaded. -/
theorem allocate_file (out : Outside) (opens : Cluster → Except Exn Unit) (dir : ClustersDir)
    (c c' : Cluster) (hfile : dir.file self.clusterName = some c) (hshows : c.asFile = c)
    (h : (self.allocate out opens dir).result = .ok c') :
    (dir.after (self.allocate out opens dir).trace).file self.clusterName = some c'.asFile
      ∧ (self.allocateEnvs out self.envs [] c).result = .ok c' := by
  have hname := dir.named self.clusterName c hfile
  have hload : loadCluster opens dir self.clusterName = .ok c := by
    unfold Provisioning.allocate at h
    rcases bind_result_ok _ _ _ h with ⟨loaded, hloaded, _⟩
    have hsame := loadCluster_ok opens dir self.clusterName loaded hloaded
    rw [Option.some.inj (hfile.symm.trans hsame)]
    exact hloaded
  rw [allocate_loaded self out opens dir c hload] at h ⊢
  have hok := asXbench_ok _ c' h
  rw [asXbench_trace]
  rw [← hname] at hfile ⊢
  refine ⟨allocateEnvs_file self out self.envs [] c c' dir ?_ hok, hok⟩
  rw [hshows]
  exact hfile

/-- Allocating again is like allocating once exactly when the failed run did
    not get past its first environment. -/
theorem retried_like_fresh_iff (out out' out'' : Outside)
    (opens opens' opens'' : Cluster → Except Exn Unit) (dir : ClustersDir) (topo : Value)
    (c : Cluster) (hconf : self.configured topo = .ok c) (e : Exn)
    (hfail : (self.allocate out opens (dir.save c)).result = .error e)
    (retried fresh : Cluster)
    (hretried : (self.allocate out' opens' ((dir.save c).after
      (self.allocate out opens (dir.save c)).trace)).result = .ok retried)
    (hfresh : (self.allocate out'' opens'' (dir.save c)).result = .ok fresh)
    (halike : AnswerAlike self out' out'') :
    (∃ f f', (((dir.save c).after (self.allocate out opens (dir.save c)).trace).after
          (self.allocate out' opens' ((dir.save c).after
            (self.allocate out opens (dir.save c)).trace)).trace).file self.clusterName = some f
        ∧ ((dir.save c).after (self.allocate out'' opens'' (dir.save c)).trace).file
            self.clusterName = some f'
        ∧ LikeFresh self (Attempts.nodes (self.attempts out' c.topoMap self.envs [])) f f')
      ↔ EndsInFirst self out opens c := by
  have hspec := configured_spec self topo c hconf
  have hsame := asFile_of_empty c hspec.members (configured_bt self topo c hconf)
  have hfile : (dir.save c).file self.clusterName = some c := by
    rw [← hspec.clusterName]
    exact (if_pos rfl).trans (congrArg some hsame)
  constructor
  · rintro ⟨f, _, hf, _, hlike⟩
    by_contra hends
    rcases allocate_saved self out opens (dir.save c) c hfile e hfail hends
      with ⟨c₁, hc₁, env, listed, hlisted⟩
    -- the second run appends all environments to those of the first
    generalize hdir₁ : (dir.save c).after (self.allocate out opens (dir.save c)).trace = dir₁
      at hf hc₁ hretried
    have hname := dir₁.named self.clusterName c₁ hc₁
    unfold Provisioning.allocate at hretried
    rcases bind_result_ok _ _ _ hretried with ⟨loaded, hloaded, hretried⟩
    have hc : loaded = c₁ := by
      have hsame := loadCluster_ok opens' dir₁ self.clusterName loaded hloaded
      exact Option.some.inj (hsame.symm.trans hc₁)
    rw [hc] at hloaded hretried
    have hok := asXbench_ok _ retried hretried
    rw [allocate_loaded self out' opens' dir₁ c₁ hloaded, asXbench_trace] at hf
    rcases (allocateEnvs_accounts self out' self.envs [] c₁ dir₁
      (shows_load opens' dir₁ self.clusterName c₁ hloaded).1).shown with ⟨c₂, hshown, haccounts⟩
    unfold Shows at hshown
    rw [haccounts.clusterName, hname] at hshown
    have henvs : f.envs = c₂.envs := by
      rcases hshown with hshown | hshown
      · rw [Option.some.inj (hf.symm.trans hshown)]
      · rw [Option.some.inj (hf.symm.trans hshown)]
        rfl
    have hlength := congrArg List.length hlike.once
    rw [henvs, haccounts.envs, hlisted, allocateEnvs_listed self out' self.envs [] c₁ retried hok]
      at hlength
    simp only [List.length_append, List.length_cons] at hlength
    omega
  · intro hends
    have hdir₁ := allocate_unsaved self out opens (dir.save c) c hfile hends
    rw [hdir₁] at hretried ⊢
    rcases allocate_file self out' opens' (dir.save c) c retried hfile hsame hretried with ⟨hf, hok⟩
    rcases allocate_file self out'' opens'' (dir.save c) c fresh hfile hsame hfresh
      with ⟨hf', hok'⟩
    refine ⟨retried.asFile, fresh.asFile, hf, hf', ?_, ?_, fun name n hn => ?_⟩
    · rw [asFile_anonymous, asFile_anonymous,
        allocateEnvs_alike self out' out'' halike self.envs [] c c retried fresh rfl hok hok']
    · have haccounts := (allocateEnvs_accounts self out' self.envs [] c (dir.save c)
        (shows_save dir c)).returns retried hok
      change retried.envs = _
      rw [haccounts.envs, hspec.envs, List.nil_append,
        allocateEnvs_listed self out' self.envs [] c retried hok]
    · have haccounts := (allocateEnvs_accounts self out' self.envs [] c (dir.save c)
        (shows_save dir c)).returns retried hok
      have hget : retried.asFile.members.get? name
          = (retried.members.get? name).map (fun n => ⟨n.vm.asBase⟩) :=
        Dict.get?_mapValues _ retried.members name
      rw [hget, haccounts.members] at hn
      rcases Option.map_eq_some_iff.mp hn with ⟨m, hm, rfl⟩
      rcases (Dict.get?_setAllBy nodeName c.members _ name m).mp hm with ⟨_, hlast⟩ | ⟨_, hold⟩
      · exact ⟨m, hlast.mem, rfl⟩
      · rw [hspec.members, Dict.get?_empty] at hold
        cases hold

end Main

section Examples

theorem returned_nothing (vm v : VirtualMachine) (e : Exn)
    (h : (.error e : Except Exn VirtualMachine) = .ok v) :
    (none : Option (Option String)) = some v.id ∧ v.name = vm.name ∧ v.env = vm.env := by
  cases h

/-- A provider that cannot make an instance. -/
def exhaustedApi : CloudApi :=
  { obedientApi with
    create := fun _ _ vm =>
      { made := none
        outcome := .error ⟨.awsCli, "InsufficientInstanceCapacity"⟩
        returned := fun v hv => returned_nothing vm v _ hv } }

def exhausted : Outside :=
  ⟨fun _ _ => exhaustedApi, fun _ => Schedule.sequential Event⟩

/-- A provider that finds a running cluster. -/
def occupied : Outside :=
  ⟨fun _ _ => { obedientApi with running := .ok true }, fun _ => Schedule.sequential Event⟩

theorem answerAlike_refl (out : Outside) : AnswerAlike self out out :=
  fun _ _ _ => rfl

/-- The cluster files after the failed run. -/
def exhaustedDir : ClustersDir :=
  (emptyDir.save oneDriverCluster).after
    (oneDriver.allocate exhausted (fun _ => .ok ()) (emptyDir.save oneDriverCluster)).trace

/-- The missing instance is saved as a failed environment, and the next run,
    which succeeds, lists the environment again. -/
theorem retried_driver_twice :
    (oneDriver.allocate exhausted (fun _ => .ok ()) (emptyDir.save oneDriverCluster)).result
        = .error notProvisioned
      ∧ (∃ c, (oneDriver.allocate obedient (fun _ => .ok ()) exhaustedDir).result = .ok c)
      ∧ ∃ f, (exhaustedDir.after
          (oneDriver.allocate obedient (fun _ => .ok ()) exhaustedDir).trace).file "dev" = some f
        ∧ f.envs = [awsEnvironment.env, awsEnvironment.env]
        ∧ ∀ launched fresh, ¬ LikeFresh oneDriver launched f fresh := by
  refine ⟨rfl, ⟨_, rfl⟩, _, rfl, rfl, fun launched fresh h => ?_⟩
  cases h.once

/-- A run that found a running cluster can be repeated. -/
theorem occupied_driver_repeated :
    ∃ f f', (((emptyDir.save oneDriverCluster).after (oneDriver.allocate occupied
            (fun _ => .ok ()) (emptyDir.save oneDriverCluster)).trace).after
          (oneDriver.allocate obedient (fun _ => .ok ()) ((emptyDir.save oneDriverCluster).after
            (oneDriver.allocate occupied (fun _ => .ok ())
              (emptyDir.save oneDriverCluster)).trace)).trace).file "dev" = some f
        ∧ ((emptyDir.save oneDriverCluster).after (oneDriver.allocate obedient
            (fun _ => .ok ()) (emptyDir.save oneDriverCluster)).trace).file "dev" = some f'
        ∧ LikeFresh oneDriver
          (Attempts.nodes (oneDriver.attempts obedient oneDriverCluster.topoMap oneDriver.envs []))
          f f' :=
  (retried_like_fresh_iff oneDriver occupied obedient obedient (fun _ => .ok ())
    (fun _ => .ok ()) (fun _ => .ok ()) emptyDir (.list [.str "driver"]) oneDriverCluster rfl _ rfl
    _ _ rfl rfl (answerAlike_refl oneDriver obedient)).mpr
    (Or.inr ⟨awsEnvironment, [], _, rfl, rfl⟩)

end Examples

end Xbench
