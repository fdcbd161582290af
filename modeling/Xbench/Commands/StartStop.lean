import Xbench.Cloud.Power
import Xbench.Commands.CloudCommands

/-!
# Stopping and Starting Whole Clusters

For which saved clusters stopping and starting act on every member.

The state is changed in the loop that tests it, so a run that returns did its
work in one environment. Stopping skips environments with nothing to stop,
and the environment it stops must be the last; starting changes the state
whatever there is to start, so there must be one environment. `stop_cases` and
`start_cases` say this of every run that returns, and the rest is what the one
cloud does.

A member of an environment that is not the one is never stopped or started, so
the conditions ask for all of them to be there.

## Main definitions

* `Installation.StopsAll`: Stopping does its work.
* `Installation.StopsWhen`: When it does.
* `Installation.StartsAll`: Starting does its work.
* `Installation.StartsWhen`: When it does.
* `MembersNamed`: Members are under their own names.
* `restarted`: The cluster with its members started.

## Theorems

* `stop_cases`: A stop that returns worked in the last environment at most.
* `stop_run`: What such a stop does.
* `start_cases`: A start that returns had one environment at most.
* `rejoin_restarted`: The nodes take the places of the members.
* `startStop_iff`: When stopping and starting do their work.
-/

namespace Xbench

open Effect

variable (self : Installation)

theorem cloudOf_cli (env : Environment) (cloud : AbstractCloud)
    (h : self.cloudOf env = .ok cloud) :
    createCli (cloudTypeOf cloud.cloudType) = .ok cloud.cli := by
  unfold Installation.cloudOf at h
  rcases except_bind_eq_ok _ _ _ h with ⟨_, _, h⟩
  rcases except_bind_eq_ok _ _ _ h with ⟨_, _, h⟩
  rcases except_bind_eq_ok _ _ _ h with ⟨t, _, h⟩
  rcases createCloud_ok _ _ _ _ cloud h with ⟨htype, hcli⟩
  rw [htype]
  exact hcli

theorem mem_instancesIn (c : Cluster) (env : Environment) (n : Node) :
    n ∈ instancesIn c env
      ↔ (∃ k, c.members.get? k = some n) ∧ eligible n = true ∧ n.vm.env = env.name := by
  rw [instancesIn, List.mem_filter, Dict.mem_values_iff, Bool.and_eq_true, beq_iff_eq]

section Stop

/-- Nothing is stopped in an environment, and its cloud object can be made. -/
def Installation.Skips (c : Cluster) (env : Environment) : Prop :=
  (∃ cloud, self.cloudOf env = .ok cloud) ∧ instancesIn c env = []

/-- The environment that is stopped: its cloud object, its members, and the
    backends that stop before. -/
structure Stops (inst : Installation) (c : Cluster) (env : Environment)
    (cloud : AbstractCloud) : Prop where
  cloudOf : inst.cloudOf env = .ok cloud
  some : instancesIn c env ≠ []
  backends : inst.backends inst.stopKlass c = .ok ()

/-- The stop in the cloud of an environment. -/
def Installation.stopping (c : Cluster) (env : Environment) (cloud : AbstractCloud) :
    Command Unit :=
  stopInstancesOf cloud (self.outside.schedule env) (instancesIn c env)

theorem startStopEnv_stop (env : Environment) (c : Cluster) (cloud : AbstractCloud)
    (hcloud : self.cloudOf env = .ok cloud) :
    self.startStopEnv "stop" env c = self.stopEnv cloud env c := by
  unfold Installation.startStopEnv
  rw [hcloud, bind_ok _ _ cloud rfl]
  rw [if_neg (by decide : ¬ "stop" = "start"), if_pos rfl]
  rfl

theorem stopEnv_skips (env : Environment) (c : Cluster) (cloud : AbstractCloud)
    (hready : c.state = .ready) (hnone : instancesIn c env = []) :
    self.stopEnv cloud env c = pure c := by
  unfold Installation.stopEnv
  rw [if_neg (fun h => h hready), hnone]
  rfl

/-- What a stop in one environment does when the backends stop. -/
theorem stopEnv_stops (env : Environment) (c : Cluster) (cloud : AbstractCloud)
    (hready : c.state = .ready) (hstops : Stops self c env cloud) :
    self.stopEnv cloud env c
      = ⟨.saveCluster { c with state := .down } :: (self.stopping c env cloud).trace,
        (self.stopping c env cloud).result.map (fun _ => { c with state := .down })⟩ := by
  unfold Installation.stopEnv
  have hempty : ¬ (instancesIn c env).isEmpty = true :=
    fun h => hstops.some (List.isEmpty_iff.mp h)
  rw [if_neg (fun h => h hready), if_neg hempty, hstops.backends, bind_ok _ _ () rfl]
  dsimp only
  rw [tell_bind]
  cases hres : (self.stopping c env cloud).result with
  | error e =>
      have hres' := hres
      unfold Installation.stopping at hres' ⊢
      rw [bind_error _ _ e hres']
      rfl
  | ok u =>
      have hres' := hres
      unfold Installation.stopping at hres' ⊢
      rw [bind_ok _ _ u hres', trace_pure, List.append_nil]
      rfl

/-- After the state changed, the next environment raises. -/
theorem stop_down (envs : List Environment) (c c' : Cluster) (hdown : c.state = .down)
    (h : (self.startStopCluster "stop" envs c).result = .ok c') : envs = [] := by
  cases envs with
  | nil => rfl
  | cons env rest =>
      rw [Installation.startStopCluster] at h
      rcases bind_result_ok _ _ _ h with ⟨c₁, henv, _⟩
      rcases bind_result_ok _ _ _ henv with ⟨cloud, hcloud, _⟩
      rw [startStopEnv_stop self env c cloud hcloud, Installation.stopEnv,
        if_pos (by rw [hdown]; decide)] at henv
      exact nomatch henv

/-- A stop that returns worked in the last environment, or nowhere. -/
theorem stop_cases (envs : List Environment) (c c' : Cluster) (hready : c.state = .ready)
    (h : (self.startStopCluster "stop" envs c).result = .ok c') :
    (∀ env ∈ envs, self.Skips c env)
      ∨ ∃ front env cloud, envs = front ++ [env] ∧ (∀ e ∈ front, self.Skips c e)
        ∧ Stops self c env cloud ∧ (self.stopping c env cloud).result = .ok () := by
  induction envs with
  | nil => exact Or.inl (fun env henv => absurd henv List.not_mem_nil)
  | cons env rest ih =>
      rw [Installation.startStopCluster] at h
      rcases bind_result_ok _ _ _ h with ⟨c₁, henv, hrest⟩
      have hcloud : ∃ cloud, self.cloudOf env = .ok cloud := by
        rcases bind_result_ok _ _ _ henv with ⟨cloud, hcloud, _⟩
        exact ⟨cloud, hcloud⟩
      rcases hcloud with ⟨cloud, hcloud⟩
      rw [startStopEnv_stop self env c cloud hcloud] at henv
      by_cases hnone : instancesIn c env = []
      · -- nothing to stop here: the state is as it was
        have hskips : self.Skips c env := ⟨⟨cloud, hcloud⟩, hnone⟩
        rw [stopEnv_skips self env c cloud hready hnone] at henv
        rw [← Except.ok.inj henv] at hrest
        rcases ih hrest with hall | ⟨front, env', cloud', hsplit, hfront, hstops⟩
        · refine Or.inl (fun e he => ?_)
          rcases List.mem_cons.mp he with rfl | he
          · exact hskips
          · exact hall e he
        · refine Or.inr ⟨env :: front, env', cloud', by rw [hsplit, List.cons_append], ?_, hstops⟩
          intro e he
          rcases List.mem_cons.mp he with rfl | he
          · exact hskips
          · exact hfront e he
      · -- the state changes, so this is the last
        have hbackends : self.backends self.stopKlass c = .ok () := by
          unfold Installation.stopEnv at henv
          rw [if_neg (fun h => h hready),
            if_neg (fun h => hnone (List.isEmpty_iff.mp h))] at henv
          rcases bind_result_ok _ _ _ henv with ⟨u, hu, _⟩
          exact hu
        have hstops : Stops self c env cloud := ⟨hcloud, hnone, hbackends⟩
        rw [stopEnv_stops self env c cloud hready hstops] at henv
        dsimp only at henv
        cases hres : (self.stopping c env cloud).result with
        | error e =>
            rw [hres] at henv
            exact nomatch henv
        | ok u =>
            rw [hres] at henv
            have hdown : c₁.state = .down := by rw [← Except.ok.inj henv]
            have hlast := stop_down self rest c₁ c' hdown hrest
            exact Or.inr ⟨[], env, cloud, by rw [hlast, List.nil_append],
              fun e he => absurd he List.not_mem_nil, hstops, hres⟩

/-- Environments with nothing to stop are passed over. -/
theorem stop_front (front rest : List Environment) (c : Cluster) (hready : c.state = .ready)
    (hfront : ∀ e ∈ front, self.Skips c e) :
    self.startStopCluster "stop" (front ++ rest) c = self.startStopCluster "stop" rest c := by
  induction front with
  | nil => rfl
  | cons env front ih =>
      rcases hfront env List.mem_cons_self with ⟨⟨cloud, hcloud⟩, hnone⟩
      rw [List.cons_append, Installation.startStopCluster,
        startStopEnv_stop self env c cloud hcloud, stopEnv_skips self env c cloud hready hnone,
        pure_bind', ih (fun e he => hfront e (List.mem_cons_of_mem env he))]

/-- What a stop that works in the last environment does. -/
theorem stop_run (front : List Environment) (env : Environment) (cloud : AbstractCloud)
    (c : Cluster) (hready : c.state = .ready) (hfront : ∀ e ∈ front, self.Skips c e)
    (hstops : Stops self c env cloud) (hres : (self.stopping c env cloud).result = .ok ()) :
    self.startStopCluster "stop" (front ++ [env]) c
      = ⟨.saveCluster { c with state := .down } :: (self.stopping c env cloud).trace,
        .ok { c with state := .down }⟩ := by
  rw [stop_front self front [env] c hready hfront, Installation.startStopCluster,
    startStopEnv_stop self env c cloud hstops.cloudOf, stopEnv_stops self env c cloud hready hstops,
    hres]
  rw [bind_ok _ _ _ rfl]
  rw [Installation.startStopCluster, trace_pure, List.append_nil]
  rfl

/-- Stopping does its work: it returns, every member that may be stopped is,
    and the state that is saved is down. -/
structure StopsAll (inst : Installation) (dir : ClustersDir) (c : Cluster) : Prop where
  returns : ∃ c', (inst.startStopCluster "stop" c.envs c).result = .ok c'
  stopped : ∀ k n, c.members.get? k = some n → eligible n = true →
    StoppedIn (inst.startStopCluster "stop" c.envs c).trace n
  saved : ∃ f, (dir.after (inst.startStopCluster "stop" c.envs c).trace).file c.clusterName
    = some f ∧ f.state = .down

/-- When it does: one environment has members to stop and has all of them, it
    is the last, its cloud stops them, and the backends stop. -/
def StopsWhen (inst : Installation) (c : Cluster) : Prop :=
  ∃ front env cloud, c.envs = front ++ [env] ∧ (∀ e ∈ front, inst.Skips c e)
    ∧ Stops inst c env cloud ∧ Stoppable cloud (instancesIn c env)
    ∧ ∀ k n, c.members.get? k = some n → eligible n = true → n.vm.env = env.name

theorem stopping_iff (c : Cluster) (env : Environment) (cloud : AbstractCloud)
    (hstops : Stops self c env cloud) :
    ((self.stopping c env cloud).result = .ok ()
        ∧ ∀ n ∈ instancesIn c env, StoppedIn (self.stopping c env cloud).trace n)
      ↔ Stoppable cloud (instancesIn c env) :=
  stopInstancesOf_iff cloud (cloudOf_cli self env cloud hstops.cloudOf) _ env.name _ hstops.some
    (fun n hn => ((mem_instancesIn c env n).mp hn).2.2)

/-- Saving and then stopping leaves the file with the state down. -/
theorem after_stopping (dir : ClustersDir) (c : Cluster) (env : Environment)
    (cloud : AbstractCloud) :
    (dir.after (.saveCluster { c with state := .down } :: (self.stopping c env cloud).trace)).file
        c.clusterName
      = some ({ c with state := .down } : Cluster).asFile := by
  have hpower := (stopInstancesOf_power cloud (instancesIn c env)
    (self.outside.schedule env)).trace
  have hquiet : (dir.save { c with state := .down }).after (self.stopping c env cloud).trace
      = dir.save { c with state := .down } :=
    after_unwritten _ _ (fun e he => power_unwritten _ e (hpower e he))
  change ((dir.save { c with state := .down }).after (self.stopping c env cloud).trace).file _ = _
  rw [hquiet]
  exact if_pos rfl

theorem stopsAll_iff (dir : ClustersDir) (c : Cluster) (hfile : dir.file c.clusterName = some c)
    (hready : c.state = .ready) : StopsAll self dir c ↔ StopsWhen self c := by
  constructor
  · rintro ⟨⟨c', hok⟩, hstopped, f, hf, hdown⟩
    rcases stop_cases self c.envs c c' hready hok with
      hall | ⟨front, env, cloud, hsplit, hfront, hstops, hres⟩
    · -- nothing was saved, so the file still says ready
      have hnothing := stop_front self c.envs [] c hready hall
      rw [List.append_nil] at hnothing
      rw [hnothing] at hf
      have hsame : dir.file c.clusterName = some f := hf
      rw [hfile] at hsame
      rw [← Option.some.inj hsame, hready] at hdown
      exact nomatch hdown
    · have hrun := stop_run self front env cloud c hready hfront hstops hres
      rw [← hsplit] at hrun
      rw [hrun] at hstopped
      -- a stop was asked for members of this environment only
      have hhere : ∀ n, StoppedIn (.saveCluster { c with state := .down }
          :: (self.stopping c env cloud).trace) n →
          n.vm.env = env.name ∧ StoppedIn (self.stopping c env cloud).trace n := by
        rintro n ⟨vm, hvm, henv, hid⟩
        rcases List.mem_cons.mp hvm with hvm | hvm
        · exact nomatch hvm
        rcases (stopInstancesOf_power cloud (instancesIn c env)
          (self.outside.schedule env)).trace _ hvm with ⟨m, hm, hmvm | hmvm⟩
        · refine ⟨?_, vm, hvm, henv, hid⟩
          rw [← henv, Event.stopInstance.inj hmvm]
          exact ((mem_instancesIn c env m).mp hm).2.2
        · exact nomatch hmvm
      refine ⟨front, env, cloud, hsplit, hfront, hstops, ?_, ?_⟩
      · refine (stopping_iff self c env cloud hstops).mp ⟨hres, fun n hn => ?_⟩
        rcases (mem_instancesIn c env n).mp hn with ⟨⟨k, hk⟩, helig, _⟩
        exact (hhere n (hstopped k n hk helig)).2
      · exact fun k n hk helig => (hhere n (hstopped k n hk helig)).1
  · rintro ⟨front, env, cloud, hsplit, hfront, hstops, hstoppable, henv⟩
    rcases (stopping_iff self c env cloud hstops).mpr hstoppable with ⟨hres, hstopped⟩
    have hrun := stop_run self front env cloud c hready hfront hstops hres
    rw [← hsplit] at hrun
    refine ⟨⟨_, by rw [hrun]⟩, fun k n hk helig => ?_, ?_⟩
    · have hn := (mem_instancesIn c env n).mpr ⟨⟨k, hk⟩, helig, henv k n hk helig⟩
      rcases hstopped n hn with ⟨vm, hvm, hy⟩
      rw [hrun]
      exact ⟨vm, List.mem_cons_of_mem _ hvm, hy⟩
    · rw [hrun, after_stopping]
      exact ⟨_, rfl, rfl⟩

end Stop

section Start

/-- The start in the cloud of an environment. -/
def Installation.starting (c : Cluster) (env : Environment) (cloud : AbstractCloud) :
    Command (Option (List (Option Node))) :=
  startInstancesOf cloud (self.outside.schedule env) (instancesIn c env)

/-- The node in the place of a member after the start. -/
def restartedMember (env : Environment) (cloud : AbstractCloud) (n : Node) : Node :=
  if eligible n && n.vm.env == env.name then (restartedNode cloud n).getD n else n

theorem restartedMember_started (env : Environment) (cloud : AbstractCloud) (n m : Node)
    (h : eligible n = true ∧ n.vm.env = env.name) (hm : restartedNode cloud n = some m) :
    restartedMember env cloud n = m := by
  have hcond : (eligible n && n.vm.env == env.name) = true := by
    rw [Bool.and_eq_true, beq_iff_eq]
    exact h
  rw [restartedMember, if_pos hcond, hm, Option.getD_some]

theorem restartedMember_left (env : Environment) (cloud : AbstractCloud) (n : Node)
    (h : ¬ (eligible n = true ∧ n.vm.env = env.name)) : restartedMember env cloud n = n := by
  have hcond : ¬ (eligible n && n.vm.env == env.name) = true := by
    rw [Bool.and_eq_true, beq_iff_eq]
    exact h
  rw [restartedMember, if_neg hcond]

/-- The cluster with the members of an environment started. -/
def restarted (c : Cluster) (env : Environment) (cloud : AbstractCloud) : Cluster :=
  { c with state := .ready, members := c.members.mapValues (restartedMember env cloud) }

theorem rejoin_eq (c : Cluster) (l : List (Option Node)) :
    rejoin c l
      = { c with members := c.members.setAllBy (fun n => n.vm.name) (l.filterMap id) } := by
  induction l generalizing c with
  | nil => rfl
  | cons o l ih =>
      cases o with
      | none => exact ih c
      | some n =>
          rw [rejoin, ih]
          rfl

section Rejoin

variable (c : Cluster) (env : Environment) (cloud : AbstractCloud) (nodes : List (Option Node))

/-- The nodes that come back are those of the members, by name. -/
theorem mem_started_iff (hnodes : nodes.Perm ((instancesIn c env).map (restartedNode cloud)))
    (m : Node) :
    m ∈ nodes.filterMap id ↔ ∃ n ∈ instancesIn c env, restartedNode cloud n = some m := by
  rw [List.mem_filterMap]
  constructor
  · rintro ⟨o, ho, hom⟩
    rw [id_eq] at hom
    rw [hom] at ho
    rcases List.mem_map.mp (hnodes.mem_iff.mp ho) with ⟨n, hn, hnm⟩
    exact ⟨n, hn, hnm⟩
  · rintro ⟨n, hn, hnm⟩
    exact ⟨some m, hnodes.mem_iff.mpr (List.mem_map.mpr ⟨n, hn, hnm⟩), rfl⟩

/-- The nodes that come back take the places of their members. -/
theorem rejoin_restarted (hnamed : MembersNamed c)
    (hstart : ∀ n ∈ instancesIn c env, ∃ m, restartedNode cloud n = some m)
    (hnodes : nodes.Perm ((instancesIn c env).map (restartedNode cloud))) :
    { rejoin c nodes with state := .ready } = restarted c env cloud := by
  have hmem := mem_started_iff c env cloud nodes hnodes
  have hmembers : c.members.setAllBy (fun n => n.vm.name) (nodes.filterMap id)
      = c.members.mapValues (restartedMember env cloud) := by
    refine Dict.ext_of_keys _ _ ?_ (fun k => ?_)
    · rw [Dict.keys_mapValues]
      refine Dict.keys_setAllBy _ _ _ (fun m hm => ?_)
      rcases (hmem m).mp hm with ⟨n, hn, hnm⟩
      rcases ((mem_instancesIn c env n).mp hn).1 with ⟨k, hk⟩
      rw [(restartedNode_spec cloud n m hnm).2, hnamed k n hk, Dict.mem_keys_iff, hk]
      rfl
    · -- under a name there is the started node, if the member was started
      rw [Dict.get?_mapValues]
      refine Option.ext (fun v => ?_)
      rw [Dict.get?_setAllBy, Option.map_eq_some_iff]
      have hown : ∀ m ∈ nodes.filterMap id, m.vm.name = k →
          ∃ n ∈ instancesIn c env, c.members.get? k = some n ∧ restartedNode cloud n = some m := by
        intro m hm hmk
        rcases (hmem m).mp hm with ⟨n, hn, hnm⟩
        rcases ((mem_instancesIn c env n).mp hn).1 with ⟨k', hk'⟩
        rw [(restartedNode_spec cloud n m hnm).2, hnamed k' n hk'] at hmk
        exact ⟨n, hn, hmk ▸ hk', hnm⟩
      constructor
      · rintro (⟨hvk, hlast⟩ | ⟨hfree, hget⟩)
        · rcases hown v hlast.mem hvk with ⟨n, hn, hget, hnv⟩
          exact ⟨n, hget, restartedMember_started env cloud n v
            (((mem_instancesIn c env n).mp hn).2) hnv⟩
        · refine ⟨v, hget, restartedMember_left env cloud v (fun helig => ?_)⟩
          have hv : v ∈ instancesIn c env := (mem_instancesIn c env v).mpr ⟨⟨k, hget⟩, helig⟩
          rcases hstart v hv with ⟨m, hm⟩
          exact hfree m ((hmem m).mpr ⟨v, hv, hm⟩)
            ((restartedNode_spec cloud v m hm).2.trans (hnamed k v hget))
      · rintro ⟨n, hget, hnv⟩
        by_cases helig : eligible n = true ∧ n.vm.env = env.name
        · have hn : n ∈ instancesIn c env := (mem_instancesIn c env n).mpr ⟨⟨k, hget⟩, helig⟩
          rcases hstart n hn with ⟨m, hm⟩
          rw [restartedMember_started env cloud n m helig hm] at hnv
          subst hnv
          have hmk : m.vm.name = k := (restartedNode_spec cloud n m hm).2.trans (hnamed k n hget)
          refine Or.inl ⟨hmk, Dict.lastWith_of_unique _ m _ ((hmem m).mpr ⟨n, hn, hm⟩) ?_⟩
          intro w hw hwm
          rcases hown w hw (hwm.trans hmk) with ⟨n', _, hget', hn'w⟩
          rw [hget, Option.some.injEq] at hget'
          rw [← hget', hm] at hn'w
          exact (Option.some.inj hn'w).symm
        · rw [restartedMember_left env cloud n helig] at hnv
          subst hnv
          refine Or.inr ⟨fun w hw hwk => ?_, hget⟩
          rcases hown w hw hwk with ⟨n', hn', hget', _⟩
          rw [hget, Option.some.injEq] at hget'
          rw [← hget'] at hn'
          exact helig ((mem_instancesIn c env n).mp hn').2
  rw [rejoin_eq, hmembers]
  rfl

end Rejoin

theorem startStopEnv_start (env : Environment) (c : Cluster) (cloud : AbstractCloud)
    (hcloud : self.cloudOf env = .ok cloud) :
    self.startStopEnv "start" env c = self.startEnv cloud env c := by
  unfold Installation.startStopEnv
  rw [hcloud, bind_ok _ _ cloud rfl, if_pos rfl]
  rfl

/-- The environment that is started, with the nodes its cloud gives back and
    the backends that start after. -/
structure Starts (inst : Installation) (c : Cluster) (env : Environment)
    (cloud : AbstractCloud) (nodes : List (Option Node)) : Prop where
  cloudOf : inst.cloudOf env = .ok cloud
  gives : (inst.starting c env cloud).result = .ok (some nodes)
  backends : inst.backends inst.startKlass { rejoin c nodes with state := .ready } = .ok ()

/-- What a start in one environment does. -/
theorem startEnv_starts (env : Environment) (c : Cluster) (cloud : AbstractCloud)
    (nodes : List (Option Node)) (hdown : c.state = .down)
    (hstarts : Starts self c env cloud nodes) :
    self.startEnv cloud env c
      = ⟨(self.starting c env cloud).trace
          ++ [.saveCluster { rejoin c nodes with state := .ready }],
        .ok { rejoin c nodes with state := .ready }⟩ := by
  have hnodes := hstarts.gives
  unfold Installation.starting at hnodes ⊢
  unfold Installation.startEnv
  rw [if_neg (fun h => h hdown), bind_ok _ _ (some nodes) hnodes]
  rw [Option.elim_some, bind_ok _ _ nodes rfl, tell_bind, hstarts.backends, bind_ok _ _ () rfl]
  rfl

/-- A start in one environment that returns. -/
theorem startEnv_ok (env : Environment) (c c' : Cluster) (cloud : AbstractCloud)
    (hcloud : self.cloudOf env = .ok cloud)
    (h : (self.startEnv cloud env c).result = .ok c') :
    c.state = .down ∧ c'.state = .ready ∧ ∃ nodes, Starts self c env cloud nodes := by
  unfold Installation.startEnv at h
  by_cases hdown : c.state = .down
  · rw [if_neg (fun h => h hdown)] at h
    rcases bind_result_ok _ _ _ h with ⟨started, hstarted, h⟩
    rcases bind_result_ok _ _ _ h with ⟨nodes, hnodes, h⟩
    rcases bind_result_ok _ _ _ h with ⟨_, _, h⟩
    rcases bind_result_ok _ _ _ h with ⟨u, hbackends, h⟩
    cases started with
    | none => exact nomatch hnodes
    | some l =>
        have hl : l = nodes := Except.ok.inj hnodes
        subst hl
        exact ⟨hdown, by rw [← Except.ok.inj h], l, hcloud, hstarted, hbackends⟩
  · rw [if_pos hdown] at h
    exact nomatch h

/-- A start that returns had one environment, or none at all. -/
theorem start_cases (envs : List Environment) (c c' : Cluster)
    (h : (self.startStopCluster "start" envs c).result = .ok c') :
    envs = [] ∨ ∃ env cloud nodes, envs = [env] ∧ Starts self c env cloud nodes := by
  cases envs with
  | nil => exact Or.inl rfl
  | cons env rest =>
      rw [Installation.startStopCluster] at h
      rcases bind_result_ok _ _ _ h with ⟨c₁, henv, hrest⟩
      have hcloud : ∃ cloud, self.cloudOf env = .ok cloud := by
        rcases bind_result_ok _ _ _ henv with ⟨cloud, hcloud, _⟩
        exact ⟨cloud, hcloud⟩
      rcases hcloud with ⟨cloud, hcloud⟩
      rw [startStopEnv_start self env c cloud hcloud] at henv
      rcases startEnv_ok self env c c₁ cloud hcloud henv with ⟨_, hready, nodes, hstarts⟩
      cases rest with
      | nil => exact Or.inr ⟨env, cloud, nodes, rfl, hstarts⟩
      | cons env' rest =>
          -- the state is ready by now, and the next environment asks for down
          rw [Installation.startStopCluster] at hrest
          rcases bind_result_ok _ _ _ hrest with ⟨c₂, henv', _⟩
          have hcloud' : ∃ cloud', self.cloudOf env' = .ok cloud' := by
            rcases bind_result_ok _ _ _ henv' with ⟨cloud', hcloud', _⟩
            exact ⟨cloud', hcloud'⟩
          rcases hcloud' with ⟨cloud', hcloud'⟩
          rw [startStopEnv_start self env' c₁ cloud' hcloud'] at henv'
          have hdown := (startEnv_ok self env' c₁ c₂ cloud' hcloud' henv').1
          rw [hready] at hdown
          exact nomatch hdown

theorem start_run (env : Environment) (c : Cluster) (cloud : AbstractCloud)
    (nodes : List (Option Node)) (hdown : c.state = .down)
    (hstarts : Starts self c env cloud nodes) :
    self.startStopCluster "start" [env] c
      = ⟨(self.starting c env cloud).trace
          ++ [.saveCluster { rejoin c nodes with state := .ready }],
        .ok { rejoin c nodes with state := .ready }⟩ := by
  rw [Installation.startStopCluster, startStopEnv_start self env c cloud hstarts.cloudOf,
    startEnv_starts self env c cloud nodes hdown hstarts, bind_ok _ _ _ rfl,
    Installation.startStopCluster, trace_pure, List.append_nil]
  rfl

/-- Starting does its work: it returns, every member that may be stopped is
    started, and what is saved is ready and has a node for each name. -/
structure StartsAll (inst : Installation) (dir : ClustersDir) (c : Cluster) : Prop where
  returns : ∃ c', (inst.startStopCluster "start" c.envs c).result = .ok c'
  started : ∀ k n, c.members.get? k = some n → eligible n = true →
    StartedIn (inst.startStopCluster "start" c.envs c).trace n
  saved : ∃ f, (dir.after (inst.startStopCluster "start" c.envs c).trace).file c.clusterName
    = some f ∧ f.state = .ready ∧ f.members.keys = c.members.keys

/-- When it does: there is one environment, it has all the members to start,
    its cloud starts them and gives their nodes back, and the backends of the
    started cluster start. -/
def StartsWhen (inst : Installation) (c : Cluster) : Prop :=
  ∃ env cloud, c.envs = [env] ∧ inst.cloudOf env = .ok cloud
    ∧ Startable cloud (instancesIn c env)
    ∧ inst.backends inst.startKlass (restarted c env cloud) = .ok ()
    ∧ ∀ k n, c.members.get? k = some n → eligible n = true → n.vm.env = env.name

theorem startable_nodes (cloud : AbstractCloud) (instances : List Node)
    (h : Startable cloud instances) :
    ∀ n ∈ instances, ∃ m, restartedNode cloud n = some m := by
  intro n hn
  by_cases haws : cloud.cloudType = .aws
  · unfold Startable at h
    rw [haws] at h
    exact (h n hn).2
  · rw [((startable_pooled cloud instances haws).mp h).2] at hn
    exact absurd hn List.not_mem_nil

theorem after_starting (dir : ClustersDir) (c c' : Cluster) (env : Environment)
    (cloud : AbstractCloud) :
    dir.after ((self.starting c env cloud).trace ++ [.saveCluster c']) = dir.save c' := by
  have hpower := (startInstancesOf_power cloud (instancesIn c env)
    (self.outside.schedule env)).trace
  have hquiet : dir.after (self.starting c env cloud).trace = dir :=
    after_unwritten dir _ (fun e he => power_unwritten _ e (hpower e he))
  rw [ClustersDir.after_append, hquiet]
  rfl

theorem startsAll_iff (dir : ClustersDir) (c : Cluster) (hfile : dir.file c.clusterName = some c)
    (hnamed : MembersNamed c) (hdown : c.state = .down) :
    StartsAll self dir c ↔ StartsWhen self c := by
  constructor
  · rintro ⟨⟨c', hok⟩, hstarted, f, hf, hready, _⟩
    rcases start_cases self c.envs c c' hok with
      hnil | ⟨env, cloud, nodes, hone, hstarts⟩
    · -- nothing was saved, so the file still says down
      rw [hnil] at hf
      have hsame : dir.file c.clusterName = some f := hf
      rw [hfile] at hsame
      rw [← Option.some.inj hsame, hdown] at hready
      exact nomatch hready
    · have hrun := start_run self env c cloud nodes hdown hstarts
      rw [hone, hrun] at hstarted
      have hcli := cloudOf_cli self env cloud hstarts.cloudOf
      -- a start was asked for members of this environment only
      have hhere : ∀ n, StartedIn ((self.starting c env cloud).trace
          ++ [.saveCluster { rejoin c nodes with state := .ready }]) n →
          n.vm.env = env.name ∧ StartedIn (self.starting c env cloud).trace n := by
        rintro n ⟨vm, hvm, henv, hid⟩
        rcases List.mem_append.mp hvm with hvm | hvm
        · rcases (startInstancesOf_power cloud (instancesIn c env)
            (self.outside.schedule env)).trace _ hvm with ⟨m, hm, hmvm | hmvm⟩
          · exact nomatch hmvm
          · refine ⟨?_, vm, hvm, henv, hid⟩
            rw [← henv, Event.startInstance.inj hmvm]
            exact ((mem_instancesIn c env m).mp hm).2.2
        · exact nomatch List.mem_singleton.mp hvm
      have hstartable : Startable cloud (instancesIn c env) := by
        refine (startInstancesOf_iff cloud hcli _ _).mp ⟨⟨nodes, hstarts.gives⟩, fun n hn => ?_⟩
        rcases (mem_instancesIn c env n).mp hn with ⟨⟨k, hk⟩, helig, _⟩
        exact (hhere n (hstarted k n hk helig)).2
      have hnodes := startInstancesOf_nodes cloud hcli _ _ nodes hstartable hstarts.gives
      have hbackends := hstarts.backends
      rw [rejoin_restarted c env cloud nodes hnamed (startable_nodes cloud _ hstartable)
        hnodes] at hbackends
      exact ⟨env, cloud, hone, hstarts.cloudOf, hstartable, hbackends,
        fun k n hk helig => (hhere n (hstarted k n hk helig)).1⟩
  · rintro ⟨env, cloud, hone, hcloud, hstartable, hbackends, henv⟩
    have hcli := cloudOf_cli self env cloud hcloud
    rcases (startInstancesOf_iff cloud hcli (self.outside.schedule env) _).mpr hstartable with
      ⟨⟨nodes, hres⟩, hstarted⟩
    have hnodes := startInstancesOf_nodes cloud hcli _ _ nodes hstartable hres
    have hrejoin := rejoin_restarted c env cloud nodes hnamed
      (startable_nodes cloud _ hstartable) hnodes
    have hstarts : Starts self c env cloud nodes := ⟨hcloud, hres, by rw [hrejoin]; exact hbackends⟩
    have hrun := start_run self env c cloud nodes hdown hstarts
    rw [hrejoin] at hrun
    refine ⟨⟨_, by rw [hone, hrun]⟩, fun k n hk helig => ?_, ?_⟩
    · have hn := (mem_instancesIn c env n).mpr ⟨⟨k, hk⟩, helig, henv k n hk helig⟩
      rcases hstarted n hn with ⟨vm, hvm, hy⟩
      rw [hone, hrun]
      exact ⟨vm, List.mem_append_left _ hvm, hy⟩
    · rw [hone, hrun, after_starting]
      refine ⟨(restarted c env cloud).asFile, if_pos rfl, rfl, ?_⟩
      have hkeys : (restarted c env cloud).asFile.members.keys
          = (c.members.mapValues (restartedMember env cloud)).keys := Dict.keys_mapValues _ _
      rw [hkeys, Dict.keys_mapValues]

end Start

/-- When stopping and starting do their work. -/
theorem startStop_iff (dir : ClustersDir) (opens : Cluster → Except Exn Unit) (c : Cluster)
    (hload : loadCluster opens dir self.clusterName = .ok c) (hnamed : MembersNamed c) :
    (c.state = .ready → (StopsAll self dir c ↔ StopsWhen self c))
      ∧ (c.state = .down → (StartsAll self dir c ↔ StartsWhen self c)) := by
  have hfile := loadCluster_ok opens dir self.clusterName c hload
  have hname := dir.named self.clusterName c hfile
  rw [← hname] at hfile
  exact ⟨stopsAll_iff self dir c hfile, startsAll_iff self dir c hfile hnamed⟩

section Examples

def awsEnv (name : String) : Environment :=
  ⟨name, "aws", "cloud.aws", "us-west-2"⟩

/-- A cluster of drivers on AWS. -/
def driversCluster (state : ClusterState) (envs : List Environment) (drivers : List Node) :
    Cluster where
  clusterName := "dev"
  state := state
  topo := "driver"
  envs := envs
  members := Dict.ofList (drivers.map (fun n => (n.vm.name, n)))
  clusterTree := .node "cluster" []
  topoMap := Dict.empty
  bt := .new "" "" "" "" 0
  sharedStorage := []

def driver0 : Node := ⟨driverVm none⟩

def driver1 : Node := ⟨{ driverVm none with env := "env_1", name := "driver-1", id := some "i-2" }⟩

theorem driver0_named (state : ClusterState) :
    MembersNamed (driversCluster state [awsEnv "env_0"] [driver0]) := by
  intro k n hget
  have hmembers : (driversCluster state [awsEnv "env_0"] [driver0]).members
      = Dict.empty.set "driver-0" driver0 := rfl
  rw [hmembers, Dict.get?_set] at hget
  by_cases hk : k = "driver-0"
  · rw [if_pos hk] at hget
    rw [← Option.some.inj hget, hk]
    rfl
  · rw [if_neg hk, Dict.get?_empty] at hget
    exact nomatch hget

theorem driver0_instances (state : ClusterState) :
    instancesIn (driversCluster state [awsEnv "env_0"] [driver0]) (awsEnv "env_0") = [driver0] :=
  rfl

theorem driver0_only (state : ClusterState) (k : String) (n : Node)
    (hget : (driversCluster state [awsEnv "env_0"] [driver0]).members.get? k = some n) :
    n = driver0 := by
  have hmem : n ∈ (driversCluster state [awsEnv "env_0"] [driver0]).members.values :=
    (Dict.mem_values_iff _ n).mpr ⟨k, hget⟩
  exact List.mem_singleton.mp hmem

/-- One driver on AWS is stopped, and started again. -/
theorem startStop_driver0 :
    StopsAll devInstallation (dirOf (driversCluster .ready [awsEnv "env_0"] [driver0]))
        (driversCluster .ready [awsEnv "env_0"] [driver0])
      ∧ StartsAll devInstallation (dirOf (driversCluster .down [awsEnv "env_0"] [driver0]))
        (driversCluster .down [awsEnv "env_0"] [driver0]) := by
  have haws : AwsInstance driver0 := ⟨"i-1", rfl, rfl⟩
  have hstop := (startStop_iff devInstallation
    (dirOf (driversCluster .ready [awsEnv "env_0"] [driver0])) (fun _ => .ok ())
    (driversCluster .ready [awsEnv "env_0"] [driver0]) rfl (driver0_named .ready)).1 rfl
  have hstart := (startStop_iff devInstallation
    (dirOf (driversCluster .down [awsEnv "env_0"] [driver0])) (fun _ => .ok ())
    (driversCluster .down [awsEnv "env_0"] [driver0]) rfl (driver0_named .down)).2 rfl
  refine ⟨hstop.mpr ?_, hstart.mpr ?_⟩
  · refine ⟨[], awsEnv "env_0", awsCloud, rfl, fun e he => absurd he List.not_mem_nil,
      ⟨rfl, by rw [driver0_instances]; exact List.cons_ne_nil _ _, rfl⟩, fun n hn => ?_,
      fun k n hk _ => by rw [driver0_only _ k n hk]; rfl⟩
    rw [driver0_instances] at hn
    rw [List.mem_singleton.mp hn]
    exact ⟨haws, rfl⟩
  · refine ⟨awsEnv "env_0", awsCloud, rfl, rfl, fun n hn => ?_, rfl,
      fun k n hk _ => by rw [driver0_only _ k n hk]; rfl⟩
    rw [driver0_instances] at hn
    rw [List.mem_singleton.mp hn]
    exact ⟨haws, _, rfl⟩

/-- Of two environments the second is neither stopped nor started: both
    commands raise there, because of what the first did to the state. -/
theorem second_environment_left :
    (devInstallation.startStopCluster "stop" [awsEnv "env_0", awsEnv "env_1"]
        (driversCluster .ready [awsEnv "env_0", awsEnv "env_1"] [driver0, driver1])).result
        = .error notReady
      ∧ ¬ StopsAll devInstallation
        (dirOf (driversCluster .ready [awsEnv "env_0", awsEnv "env_1"] [driver0, driver1]))
        (driversCluster .ready [awsEnv "env_0", awsEnv "env_1"] [driver0, driver1])
      ∧ (devInstallation.startStopCluster "start" [awsEnv "env_0", awsEnv "env_1"]
        (driversCluster .down [awsEnv "env_0", awsEnv "env_1"] [driver0, driver1])).result
        = .error alreadyRunning
      ∧ ¬ StartsAll devInstallation
        (dirOf (driversCluster .down [awsEnv "env_0", awsEnv "env_1"] [driver0, driver1]))
        (driversCluster .down [awsEnv "env_0", awsEnv "env_1"] [driver0, driver1]) := by
  have hstop : (devInstallation.startStopCluster "stop" [awsEnv "env_0", awsEnv "env_1"]
      (driversCluster .ready [awsEnv "env_0", awsEnv "env_1"] [driver0, driver1])).result
      = .error notReady := rfl
  have hstart : (devInstallation.startStopCluster "start" [awsEnv "env_0", awsEnv "env_1"]
      (driversCluster .down [awsEnv "env_0", awsEnv "env_1"] [driver0, driver1])).result
      = .error alreadyRunning := rfl
  refine ⟨hstop, fun h => ?_, hstart, fun h => ?_⟩
  · rcases h.returns with ⟨c', hc'⟩
    exact nomatch hstop.symm.trans hc'
  · rcases h.returns with ⟨c', hc'⟩
    exact nomatch hstart.symm.trans hc'

end Examples

end Xbench
