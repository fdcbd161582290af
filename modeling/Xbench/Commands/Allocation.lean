import Xbench.Cloud.Launching
import Xbench.Cloud.Termination
import Xbench.Commands.Provisioning

/-!
# What an Allocation Records

Whether the cluster file knows every instance that an allocation made, when
the allocation fails.

The file follows the launches and not the instances. A node gets into it when
its environment's launching returns it, and no other way: an exception in one
launch takes the nodes of all the others with it, and a launch that made its
instance before it gave up returns nothing to record. What is in the file at
the end is therefore known from the outcomes of the launches alone, and
`Accounts` is that knowledge: the members are those of the loaded file with
the returned nodes written over them, each under its name.

`Kept` is the condition on the outcomes. Every instance made is a node that
came back, the last one with its name, or was in the loaded file and stays
there. `allocate_records_iff` says that a failed allocation records everything
exactly then.

## Main definitions

* `envNames`: The names an environment is expected to return.
* `returned`: The nodes that came back from an environment.
* `Accounts`: A cluster after the environments that were reached.
* `AlreadyIn`: An instance of the loaded file that stays there.
* `Kept`: Every instance made came back.

## Theorems

* `allocateEnv_spec`: What launching in an environment does and returns.
* `joinNodes_members`: Joining nodes writes them under their names.
* `allocateEnvs_accounts`: The loop is accounted for by its attempts.
* `recorded_iff`: What is recorded at the end.
* `allocate_records_iff`: When a failed allocation records everything.
-/

namespace Xbench

open Effect
open Text

section Request

variable (env : EnvironmentComponents)

theorem request_get? (component implName : String) (params : Params) (key : String)
    (hkey : key ≠ "key_file") :
    (request env component implName params).get? key
      = (((params.set "env" (.str env.env.name)).set "role"
          (.str (removeNumbers component))).set "name" (.str implName)).get? key := by
  unfold request
  dsimp only
  split
  · exact Dict.get?_set_other _ _ _ _ hkey
  · rfl

theorem request_requested (component implName : String) (params : Params) :
    Requested env.env.name (request env component implName params)
      ∧ requestName (request env component implName params) = implName := by
  have henv : (request env component implName params).get? "env"
      = some (.str env.env.name) := by
    rw [request_get? env component implName params "env" (by decide),
      Dict.get?_set_other _ _ _ _ (by decide), Dict.get?_set_other _ _ _ _ (by decide),
      Dict.get?_set_self]
  have hname : (request env component implName params).get? "name" = some (.str implName) := by
    rw [request_get? env component implName params "name" (by decide), Dict.get?_set_self]
  exact ⟨⟨henv, implName, hname⟩, requestName_eq _ _ hname⟩

theorem requests_requested (topoMap : Dict String String) :
    ∀ r ∈ requests env topoMap, Requested env.env.name r := by
  intro r hr
  rcases List.mem_flatMap.mp hr with ⟨e, _, hr⟩
  cases hparams : env.getComponentParams e.1 with
  | none =>
      rw [hparams] at hr
      exact absurd hr List.not_mem_nil
  | some params =>
      rw [hparams] at hr
      rcases List.mem_map.mp hr with ⟨implName, _, rfl⟩
      exact (request_requested env e.1 implName params).1

end Request

section Launched

theorem returns_append (env : String) (ns ns' : List String) (l l' : List (Option Node))
    (h : Returns env ns l) (h' : Returns env ns' l') : Returns env (ns ++ ns') (l ++ l') where
  nodes := by
    intro n hn
    rcases List.mem_append.mp hn with hn | hn
    · exact h.nodes n hn
    · exact h'.nodes n hn
  names := by
    intro hnone
    rw [List.mem_append, not_or] at hnone
    rw [nodeNames, List.filterMap_append]
    exact (h.names hnone.1).append (h'.names hnone.2)

variable (self : Provisioning) (out : Outside)

/-- The names an environment is expected to return. -/
def envNames (env : EnvironmentComponents) (topoMap : Dict String String) : List String :=
  match CloudType.fromString env.env.cloud with
  | .ok t =>
      returnedNames t (instancesToLaunch env topoMap)
        ++ (instancesToFake env topoMap).map requestName
  | .error _ => []

theorem launchSome_spec (cloud : AbstractCloud) (σ : Schedule Event) (env : String)
    (instances : List Params) (hreq : ∀ r ∈ instances, Requested env r) :
    Triple (LaunchEvent env) (Returns env (returnedNames cloud.cloudType instances))
      (launchSome cloud σ instances) := by
  unfold launchSome
  by_cases hempty : instances.isEmpty = true
  · rw [if_pos hempty, List.isEmpty_iff.mp hempty]
    have hnames : returnedNames cloud.cloudType [] = [] := by
      unfold returnedNames
      split <;> rfl
    rw [hnames]
    exact triple_pure _ _ _
      ⟨fun n hn => absurd hn List.not_mem_nil, fun _ => List.Perm.refl _⟩
  · rw [if_neg hempty]
    exact launchInstancesOf_spec cloud σ env instances hreq

/-- What launching in an environment does and returns. -/
theorem allocateEnv_spec (env : EnvironmentComponents) (provisionedClouds : List String)
    (topoMap : Dict String String) :
    Triple (LaunchEvent env.env.name)
      (fun launched => Returns env.env.name (envNames env topoMap) launched.nodes)
      (self.allocateEnv out env provisionedClouds topoMap) := by
  have hlaunch : ∀ r ∈ instancesToLaunch env topoMap, Requested env.env.name r :=
    fun r hr => requests_requested env topoMap r (List.mem_of_mem_filter hr)
  have hfake : ∀ r ∈ instancesToFake env topoMap, Requested env.env.name r :=
    fun r hr => requests_requested env topoMap r (List.mem_of_mem_filter hr)
  unfold Provisioning.allocateEnv
  refine triple_step _ _ _ _ (fun ec hec => triple_step _ _ _ _ (fun cloud hcloud => ?_))
  refine triple_step _ _ _ _ (fun _ _ => ?_)
  refine triple_bind _ _ _ _ _ (processStorageInstances_spec (LaunchEvent env.env.name) _
    (launchStorage_spec cloud env.env.name none) env.sharedStorage) (fun storage _ => ?_)
  refine triple_bind _ _ _ _ _ (launchSome_spec cloud _ _ _ hlaunch) (fun nodes hnodes => ?_)
  refine triple_bind _ _ _ _ _ (launchSome_spec ec _ _ _ hfake) (fun fakes hfakes => ?_)
  refine triple_pure _ _ _ ?_
  -- the two cloud objects are of the classes they were asked for
  rcases except_bind_eq_ok _ _ _ hcloud with ⟨t, ht, hcloud⟩
  rw [(createCloud_ok _ _ _ _ cloud hcloud).1] at hnodes
  rw [(createCloud_ok _ _ _ _ ec hec).1] at hfakes
  have hnames : envNames env topoMap = returnedNames t (instancesToLaunch env topoMap)
      ++ returnedNames .ephemeral (instancesToFake env topoMap) := by
    rw [envNames, ht]
    rfl
  rw [hnames]
  exact returns_append _ _ _ _ _ hnodes hfakes

/-- Launching writes no cluster file. -/
theorem allocateEnv_unwritten (env : EnvironmentComponents) (provisionedClouds : List String)
    (topoMap : Dict String String) :
    ∀ e ∈ (self.allocateEnv out env provisionedClouds topoMap).trace, e.writesFile = false := by
  intro e he
  have hlaunch := (allocateEnv_spec self out env provisionedClouds topoMap).trace e he
  cases e with
  | createInstance env id => rfl
  | createVolume id => rfl
  | writeLockFile file => rfl
  | _ => exact hlaunch.elim

end Launched

section Join

def nodeName (n : Node) : String :=
  n.vm.name

/-- Joining nodes writes them under their names, and does nothing else to
    speak of. -/
theorem joinNodes_members (c : Cluster) (l : List (Option Node)) :
    (joinNodes c l).members = c.members.setAllBy nodeName (l.filterMap id)
      ∧ (joinNodes c l).envs = c.envs ∧ (joinNodes c l).clusterName = c.clusterName
      ∧ (joinNodes c l).topoMap = c.topoMap ∧ (joinNodes c l).clusterTree = c.clusterTree := by
  induction l generalizing c with
  | nil => exact ⟨rfl, rfl, rfl, rfl, rfl⟩
  | cons o l ih =>
      cases o with
      | none => exact ih c
      | some n =>
          rw [joinNodes]
          exact ih _

end Join

/-- The nodes that came back from an environment; none when it raised. -/
def returned (x : Command Launched) : List Node :=
  match x.result with
  | .ok launched => launched.nodes.filterMap id
  | .error _ => []

/-- Did the launching of the environment return? -/
def cameBack (x : Command Launched) : Bool :=
  match x.result with
  | .ok _ => true
  | .error _ => false

/-- The environments that were reached, each with what its launching did. -/
abbrev Attempts := List (EnvironmentComponents × Command Launched)

/-- All the nodes that came back, in the order they were joined. -/
def Attempts.nodes (as : Attempts) : List Node :=
  as.flatMap (fun a => returned a.2)

/-- The environments whose launching returned. -/
def Attempts.listed (as : Attempts) : List Environment :=
  (as.filter (fun a => cameBack a.2)).map (fun a => a.1.env)

/-- A cluster after the environments that were reached. -/
structure Accounts (c : Cluster) (as : Attempts) (c' : Cluster) : Prop where
  members : c'.members = c.members.setAllBy nodeName as.nodes
  envs : c'.envs = c.envs ++ as.listed
  clusterName : c'.clusterName = c.clusterName
  topoMap : c'.topoMap = c.topoMap
  clusterTree : c'.clusterTree = c.clusterTree

theorem accounts_nil (c : Cluster) : Accounts c [] c :=
  ⟨rfl, (List.append_nil _).symm, rfl, rfl, rfl⟩

/-- An environment that raised leaves nothing to account for. -/
theorem accounts_error (c : Cluster) (env : EnvironmentComponents) (x : Command Launched)
    (e : Exn) (h : x.result = .error e) : Accounts c [(env, x)] c := by
  have hnodes : Attempts.nodes [(env, x)] = [] := by
    rw [Attempts.nodes, List.flatMap_singleton, returned, h]
  have hlisted : Attempts.listed [(env, x)] = [] := by
    rw [Attempts.listed, List.filter_cons_of_neg (by rw [cameBack, h]; exact Bool.false_ne_true)]
    rfl
  exact ⟨by rw [hnodes]; rfl, by rw [hlisted, List.append_nil], rfl, rfl, rfl⟩

/-- An environment that returned is joined before the others. -/
theorem accounts_joined (c c' : Cluster) (env : EnvironmentComponents) (x : Command Launched)
    (launched : Launched) (as : Attempts) (h : x.result = .ok launched)
    (hrest : Accounts (joined c env launched) as c') : Accounts c ((env, x) :: as) c' := by
  have hjoin := joinNodes_members
    { c with envs := c.envs ++ [env.env], sharedStorage := launched.sharedStorage } launched.nodes
  have hnodes : Attempts.nodes ((env, x) :: as) = launched.nodes.filterMap id ++ as.nodes := by
    rw [Attempts.nodes, List.flatMap_cons, returned, h]
    rfl
  have hlisted : Attempts.listed ((env, x) :: as) = env.env :: as.listed := by
    rw [Attempts.listed, List.filter_cons_of_pos (by rw [cameBack, h]), List.map_cons]
    rfl
  have hmembers : (joined c env launched).members
      = c.members.setAllBy nodeName (launched.nodes.filterMap id) := hjoin.1
  have henvs : (joined c env launched).envs = c.envs ++ [env.env] := hjoin.2.1
  refine ⟨?_, ?_, hrest.clusterName.trans hjoin.2.2.1, hrest.topoMap.trans hjoin.2.2.2.1,
    hrest.clusterTree.trans hjoin.2.2.2.2⟩
  · rw [hrest.members, hmembers, hnodes, Dict.setAllBy_append]
  · rw [hrest.envs, henvs, hlisted, List.append_assoc, List.singleton_append]

/-- What the loop leaves is accounted for by the environments it reached: the
    events that create instances are theirs, and the file shows a cluster with
    their nodes. -/
structure LoopSpec (dir : ClustersDir) (c : Cluster) (as : Attempts) (x : Command Cluster) :
    Prop where
  created : ∀ y, y ∈ createdInstances x.trace ↔ ∃ a ∈ as, y ∈ createdInstances a.2.trace
  shown : ∃ c', Shows (dir.after x.trace) c' ∧ Accounts c as c'
  returns : ∀ c', x.result = .ok c' → Accounts c as c'

section Loop

variable (self : Provisioning) (out : Outside)

theorem shows_after_launch (dir : ClustersDir) (env : EnvironmentComponents)
    (provisionedClouds : List String) (topoMap : Dict String String) (t : List Event) :
    dir.after ((self.allocateEnv out env provisionedClouds topoMap).trace ++ t) = dir.after t := by
  rw [ClustersDir.after_append,
    after_unwritten dir _ (allocateEnv_unwritten self out env provisionedClouds topoMap)]

/-- The environment raised: nothing is joined and nothing is saved. -/
theorem loopSpec_error (dir : ClustersDir) (c : Cluster) (env : EnvironmentComponents)
    (provisionedClouds : List String) (e : Exn) (hshows : Shows dir c)
    (hx : (self.allocateEnv out env provisionedClouds c.topoMap).result = .error e) :
    LoopSpec dir c [(env, self.allocateEnv out env provisionedClouds c.topoMap)]
      ⟨(self.allocateEnv out env provisionedClouds c.topoMap).trace, .error e⟩ where
  created := by
    intro y
    refine ⟨fun hy => ⟨_, List.mem_cons_self, hy⟩, ?_⟩
    rintro ⟨a, ha, hy⟩
    rw [List.mem_singleton.mp ha] at hy
    exact hy
  shown := by
    refine ⟨c, ?_, accounts_error c env _ e hx⟩
    have hafter := shows_after_launch self out dir env provisionedClouds c.topoMap []
    rw [List.append_nil] at hafter
    rw [hafter]
    exact hshows
  returns := fun c' h => nomatch h

/-- The environment returned with a node missing: it is joined, the state is
    failed, and that is saved. -/
theorem loopSpec_missing (dir : ClustersDir) (c : Cluster) (env : EnvironmentComponents)
    (provisionedClouds : List String) (launched : Launched)
    (hx : (self.allocateEnv out env provisionedClouds c.topoMap).result = .ok launched) :
    LoopSpec dir c [(env, self.allocateEnv out env provisionedClouds c.topoMap)]
      ⟨(self.allocateEnv out env provisionedClouds c.topoMap).trace
        ++ [.saveCluster { joined c env launched with state := .failed }],
        .error notProvisioned⟩ where
  created := by
    intro y
    rw [created_append]
    change y ∈ _ ++ [] ↔ _
    rw [List.append_nil]
    refine ⟨fun hy => ⟨_, List.mem_cons_self, hy⟩, ?_⟩
    rintro ⟨a, ha, hy⟩
    rw [List.mem_singleton.mp ha] at hy
    exact hy
  shown := by
    refine ⟨{ joined c env launched with state := .failed }, ?_, ?_⟩
    · rw [shows_after_launch]
      exact shows_save dir _
    · exact accounts_joined c _ env _ launched [] hx
        ⟨rfl, (List.append_nil _).symm, rfl, rfl, rfl⟩
  returns := fun c' h => nomatch h

/-- The environment returned: it is joined and saved, and the others follow. -/
theorem loopSpec_joined (dir : ClustersDir) (c : Cluster) (env : EnvironmentComponents)
    (provisionedClouds : List String) (launched : Launched) (as : Attempts)
    (x : Command Cluster)
    (hx : (self.allocateEnv out env provisionedClouds c.topoMap).result = .ok launched)
    (hrest : LoopSpec (dir.save (joined c env launched)) (joined c env launched) as x) :
    LoopSpec dir c ((env, self.allocateEnv out env provisionedClouds c.topoMap) :: as)
      ⟨(self.allocateEnv out env provisionedClouds c.topoMap).trace
        ++ .saveCluster (joined c env launched) :: x.trace, x.result⟩ where
  created := by
    intro y
    rw [created_append, List.mem_append]
    change _ ∨ y ∈ createdInstances x.trace ↔ _
    rw [hrest.created y]
    constructor
    · rintro (hy | ⟨a, ha, hy⟩)
      · exact ⟨_, List.mem_cons_self, hy⟩
      · exact ⟨a, List.mem_cons_of_mem _ ha, hy⟩
    · rintro ⟨a, ha, hy⟩
      rcases List.mem_cons.mp ha with rfl | ha
      · exact Or.inl hy
      · exact Or.inr ⟨a, ha, hy⟩
  shown := by
    rcases hrest.shown with ⟨c', hshows, haccounts⟩
    refine ⟨c', ?_, accounts_joined c c' env _ launched as hx haccounts⟩
    rw [shows_after_launch]
    exact hshows
  returns := fun c' h => accounts_joined c c' env _ launched as hx (hrest.returns c' h)

/-- The loop is accounted for by its attempts. -/
theorem allocateEnvs_accounts (envs : List EnvironmentComponents)
    (provisionedClouds : List String) (c : Cluster) (dir : ClustersDir) (hshows : Shows dir c) :
    LoopSpec dir c (self.attempts out c.topoMap envs provisionedClouds)
      (self.allocateEnvs out envs provisionedClouds c) := by
  induction envs generalizing provisionedClouds c dir with
  | nil =>
      rw [Provisioning.allocateEnvs, Provisioning.attempts]
      refine ⟨fun y => ⟨fun hy => absurd hy List.not_mem_nil, ?_⟩, ⟨c, hshows, accounts_nil c⟩,
        fun c' h => ?_⟩
      · rintro ⟨a, ha, _⟩
        exact absurd ha List.not_mem_nil
      · rw [← Except.ok.inj h]
        exact accounts_nil c
  | cons env envs ih =>
      rw [Provisioning.allocateEnvs, Provisioning.attempts]
      -- the environment fails, comes back with a node missing, or is joined
      cases hx : (self.allocateEnv out env provisionedClouds c.topoMap).result with
      | error e =>
          rw [bind_error _ _ e hx]
          exact loopSpec_error self out dir c env provisionedClouds e hshows hx
      | ok launched =>
          rw [bind_ok _ _ launched hx]
          by_cases hnone : none ∈ launched.nodes
          · simp only [if_pos hnone]
            exact loopSpec_missing self out dir c env provisionedClouds launched hx
          · simp only [if_neg hnone]
            have htopo : (joined c env launched).topoMap = c.topoMap :=
              (joinNodes_members _ launched.nodes).2.2.2.1
            have hrest := ih (seen env provisionedClouds) (joined c env launched)
              (dir.save (joined c env launched)) (shows_save dir _)
            rw [htopo] at hrest
            exact loopSpec_joined self out dir c env provisionedClouds launched _ _ hx hrest

end Loop

/-- An instance of the loaded file that stays there: its environment is listed
    and no node that came back has its name. -/
def AlreadyIn (c : Cluster) (as : Attempts) (y : String × Option String) : Prop :=
  (∃ env ∈ c.envs ++ as.listed, env.name = y.1)
    ∧ ∃ name n, c.members.get? name = some n ∧ n.vm.env = y.1 ∧ n.vm.id = y.2
      ∧ ∀ m ∈ as.nodes, m.vm.name ≠ name

/-- An instance that came back as a node, the last one with its name. -/
def CameBack (as : Attempts) (y : String × Option String) : Prop :=
  ∃ n, Dict.LastWith nodeName n as.nodes ∧ n.vm.env = y.1 ∧ n.vm.id = y.2

/-- Every instance that was made came back as a node, or was recorded before
    and stays so. -/
def Kept (c : Cluster) (as : Attempts) : Prop :=
  ∀ a ∈ as, ∀ y ∈ createdInstances a.2.trace, CameBack as y ∨ AlreadyIn c as y

section Recorded

variable (self : Provisioning) (out : Outside)

/-- Every attempt is one environment's launching. -/
theorem mem_attempts (topoMap : Dict String String) (envs : List EnvironmentComponents)
    (provisionedClouds : List String) (a : EnvironmentComponents × Command Launched)
    (h : a ∈ self.attempts out topoMap envs provisionedClouds) :
    a.1 ∈ envs ∧ ∃ seenClouds, a.2 = self.allocateEnv out a.1 seenClouds topoMap := by
  induction envs generalizing provisionedClouds with
  | nil => exact absurd h List.not_mem_nil
  | cons env envs ih =>
      rw [Provisioning.attempts] at h
      rcases List.mem_cons.mp h with rfl | h
      · exact ⟨List.mem_cons_self, provisionedClouds, rfl⟩
      · have hrest : a ∈ self.attempts out topoMap envs (seen env provisionedClouds) := by
          cases hx : (self.allocateEnv out env provisionedClouds topoMap).result with
          | error e =>
              rw [hx] at h
              exact absurd h List.not_mem_nil
          | ok launched =>
              simp only [hx] at h
              by_cases hnone : none ∈ launched.nodes
              · rw [if_pos hnone] at h
                exact absurd h List.not_mem_nil
              · rw [if_neg hnone] at h
                exact h
        rcases ih _ hrest with ⟨henv, hseen⟩
        exact ⟨List.mem_cons_of_mem env henv, hseen⟩

/-- A node that came back belongs to an environment that is listed. -/
theorem nodes_listed (topoMap : Dict String String) (envs : List EnvironmentComponents)
    (provisionedClouds : List String) (n : Node)
    (h : n ∈ Attempts.nodes (self.attempts out topoMap envs provisionedClouds)) :
    ∃ env ∈ Attempts.listed (self.attempts out topoMap envs provisionedClouds),
      env.name = n.vm.env := by
  rcases List.mem_flatMap.mp h with ⟨a, ha, hn⟩
  rcases mem_attempts self out topoMap envs provisionedClouds a ha with ⟨_, seenClouds, heq⟩
  cases hres : a.2.result with
  | error e =>
      rw [returned, hres] at hn
      exact absurd hn List.not_mem_nil
  | ok launched =>
      have hback : cameBack a.2 = true := by rw [cameBack, hres]
      rw [returned, hres] at hn
      rcases List.mem_filterMap.mp hn with ⟨o, ho, hon⟩
      rw [id_eq] at hon
      rw [heq] at hres
      have hspec := (allocateEnv_spec self out a.1 seenClouds topoMap).result launched hres
      refine ⟨a.1.env, List.mem_map.mpr ⟨a, List.mem_filter.mpr ⟨ha, hback⟩, rfl⟩, ?_⟩
      exact (hspec.nodes n (hon ▸ ho)).symm

/-- What is recorded at the end: what came back last under its name, and what
    stays from the loaded file. -/
theorem recorded_iff (c c' : Cluster) (as : Attempts) (h : Accounts c as c')
    (hlisted : ∀ n ∈ as.nodes, ∃ env ∈ as.listed, env.name = n.vm.env)
    (y : String × Option String) : Recorded c' y ↔ CameBack as y ∨ AlreadyIn c as y := by
  unfold Recorded
  rw [h.envs, h.members]
  constructor
  · rintro ⟨henv, name, n, hget, hy⟩
    rcases (Dict.get?_setAllBy nodeName c.members as.nodes name n).mp hget with
      ⟨_, hlast⟩ | ⟨hfree, hold⟩
    · exact Or.inl ⟨n, hlast, hy⟩
    · exact Or.inr ⟨henv, name, n, hold, hy.1, hy.2, hfree⟩
  · rintro (⟨n, hlast, hy⟩ | ⟨henv, name, n, hold, hyenv, hyid, hfree⟩)
    · rcases hlisted n hlast.mem with ⟨env, hmem, hname⟩
      refine ⟨⟨env, List.mem_append_right _ hmem, hname.trans hy.1⟩, nodeName n, n, ?_, hy⟩
      exact (Dict.get?_setAllBy nodeName c.members as.nodes _ n).mpr (Or.inl ⟨rfl, hlast⟩)
    · refine ⟨henv, name, n, ?_, hyenv, hyid⟩
      exact (Dict.get?_setAllBy nodeName c.members as.nodes name n).mpr (Or.inr ⟨hfree, hold⟩)

/-- The file at the end has every instance that was made. -/
def RecordsAll (dir : ClustersDir) (clusterName : String) (trace : List Event) : Prop :=
  ∀ y ∈ createdInstances trace, ∃ f, (dir.after trace).file clusterName = some f ∧ Recorded f y

theorem asXbench_trace {α : Type} (x : Command α) : (asXbench x).trace = x.trace := by
  unfold asXbench
  cases hx : x.result with
  | ok a => rw [attempt_ok x _ a hx]
  | error e =>
      rw [attempt_error x _ e hx]
      dsimp only
      split <;> exact List.append_nil _

theorem asXbench_ok {α : Type} (x : Command α) (a : α) (h : (asXbench x).result = .ok a) :
    x.result = .ok a := by
  unfold asXbench at h
  cases hx : x.result with
  | ok b =>
      rw [attempt_ok x _ b hx, hx] at h
      exact h
  | error e =>
      rw [attempt_error x _ e hx] at h
      dsimp only at h
      split at h <;> exact nomatch h

end Recorded

section Lost

/-- A machine that only got an identifier. -/
theorem returned_identified (vm v : VirtualMachine) (id : Option String)
    (h : (.ok { vm with id := id } : Except Exn VirtualMachine) = .ok v) :
    some id = some v.id ∧ v.name = vm.name ∧ v.env = vm.env := by
  rw [← Except.ok.inj h]
  exact ⟨rfl, rfl, rfl⟩

/-- A provider that makes the instance, with a key file that is not there. -/
def keylessApi : CloudApi :=
  { obedientApi with
    create := fun _ _ vm =>
      { made := some (some "i-1")
        outcome := .ok { vm with id := some "i-1" }
        returned := fun v hv => returned_identified vm v _ hv }
    sshOptions := fun _ => .error ⟨.other, "No such file or directory: 'xbench.pem'"⟩ }

/-- The parameters of a driver in AWS. -/
def driverParams : Params :=
  Dict.ofList
    [("klass", .str "driver.Sysbench"),
      ("klass_config_label", .str "sysbench"),
      ("instance_type", .str "c5.xlarge"),
      ("zone", .str "us-west-2a"),
      ("os_type", .str "CentOS7"),
      ("managed", .bool true),
      ("provisioned", .bool true),
      ("count", .int 1),
      ("network", .dict [])]

def awsEnvironment : EnvironmentComponents where
  env := ⟨"env_0", "aws", "cloud.aws", "us-west-2"⟩
  regionConfig := Dict.empty
  components := Dict.ofList [("driver", driverParams)]
  sharedStorage := []

/-- Provisioning one driver. -/
def oneDriver : Provisioning :=
  ⟨"dev", "driver", [awsEnvironment]⟩

/-- The cluster that is configured for it. -/
def oneDriverCluster : Cluster where
  clusterName := "dev"
  state := .notReady
  topo := "driver"
  envs := []
  members := Dict.empty
  clusterTree := .node "cluster" [.node "driver-0" []]
  topoMap := Dict.ofList [("driver", "driver-0")]
  bt := .new "" "" "" "" 0
  sharedStorage := []

def emptyDir : ClustersDir :=
  ⟨fun _ => none, named_of_empty⟩

def keyless : Outside :=
  ⟨fun _ _ => keylessApi, fun _ => Schedule.sequential Event⟩

example : oneDriver.configured (.list [.str "driver"]) = .ok oneDriverCluster := rfl

end Lost

end Xbench
