import Xbench.Commands.StartStop

/-!
# What a Failed Stop Saves

The cluster file after a stop, wherever the stop ended.

The state is saved as down before the cloud is asked to stop anything, once, in
the first environment with something to stop. So there are two kinds of runs.
Either nothing was saved: an environment before had no cloud object, the
backends did not stop, the cluster was not ready, or there was nothing to stop
at all. Or the file says down, and that is true only if the one cloud stops
everything that any environment has to stop.

An instance may be listed under two environments of one name, and the provider
knows it by its identifier. What has to be stopped is compared by these two.

## Main definitions

* `SameInstance`: Two nodes of one instance.
* `Installation.Reaches`: A stop gets to the instances of an environment.
* `AllStopped`: Everything that is asked for is stopped.
* `StaysRetryable`: What the file says after a stop.
* `StopsEverything`: One cloud stops what all environments have to stop.

## Theorems

* `stop_refused`: A cluster that is not ready is left alone.
* `stop_reaches`: What a stop that gets to the instances leaves behind.
* `stop_unreached`: A stop that does not get there leaves nothing behind.
* `stays_retryable_iff`: When a stop can be asked for again.
* `refused_stop_down`: A stop that the provider refuses is saved as done.
-/

namespace Xbench

open Effect

/-- Two nodes of one instance. -/
def SameInstance (m n : Node) : Prop :=
  m.vm.env = n.vm.env ∧ m.vm.id = n.vm.id

section Stop

variable (self : Installation)

/-- A stop gets to the instances of an environment: the ones before have
    nothing to stop, and its backends stop. -/
def Installation.Reaches (c : Cluster) (env : Environment) (cloud : AbstractCloud)
    (front rest : List Environment) : Prop :=
  c.envs = front ++ env :: rest ∧ (∀ e ∈ front, self.Skips c e) ∧ Stops self c env cloud

/-- Everything that any environment has to stop is stopped. -/
def AllStopped (c : Cluster) (trace : List Event) : Prop :=
  ∀ env ∈ c.envs, ∀ n ∈ instancesIn c env, StoppedIn trace n

/-- After a stop the file says down only if everything was stopped, and
    otherwise what it said before. -/
structure StaysRetryable (inst : Installation) (dir : ClustersDir) (c : Cluster) : Prop where
  down : ∀ f, (dir.after (inst.startStopCluster "stop" c.envs c).trace).file c.clusterName
    = some f → c.state ≠ .down → f.state = .down →
    AllStopped c (inst.startStopCluster "stop" c.envs c).trace
  before : ∀ f, (dir.after (inst.startStopCluster "stop" c.envs c).trace).file c.clusterName
    = some f → ¬ AllStopped c (inst.startStopCluster "stop" c.envs c).trace → f.state = c.state

/-- The cloud of an environment stops what all environments have to stop. -/
def StopsEverything (c : Cluster) (env : Environment) (cloud : AbstractCloud) : Prop :=
  ∀ e ∈ c.envs, ∀ n ∈ instancesIn c e, ∃ m ∈ instancesIn c env,
    StopsNode cloud (instancesIn c env) m ∧ SameInstance m n

/-- A cluster that is not ready is left alone. -/
theorem stop_refused (envs : List Environment) (c : Cluster) (hstate : c.state ≠ .ready) :
    (self.startStopCluster "stop" envs c).trace = [] := by
  cases envs with
  | nil => rfl
  | cons env rest =>
      rw [Installation.startStopCluster]
      cases hcloud : self.cloudOf env with
      | error e =>
          unfold Installation.startStopEnv
          rw [hcloud, bind_error _ _ e rfl, bind_error _ _ e rfl]
          rfl
      | ok cloud =>
          rw [startStopEnv_stop self env c cloud hcloud, Installation.stopEnv, if_pos hstate,
            bind_error _ _ notReady rfl]
          rfl

/-- A stop that gets to the instances of an environment saves the state down
    and asks the cloud; the environments after that one find it changed. -/
theorem stop_reaches (c : Cluster) (env : Environment) (cloud : AbstractCloud)
    (front rest : List Environment) (hready : c.state = .ready)
    (h : self.Reaches c env cloud front rest) :
    (self.startStopCluster "stop" c.envs c).trace
      = .saveCluster { c with state := .down } :: (self.stopping c env cloud).trace := by
  rcases h with ⟨hsplit, hfront, hstops⟩
  have hrun : (self.startStopCluster "stop" (front ++ env :: rest) c).trace
      = .saveCluster { c with state := .down } :: (self.stopping c env cloud).trace := by
    rw [stop_front self front (env :: rest) c hready hfront, Installation.startStopCluster,
      startStopEnv_stop self env c cloud hstops.cloudOf,
      stopEnv_stops self env c cloud hready hstops]
    cases hres : (self.stopping c env cloud).result with
    | error e => rw [bind_error _ _ e rfl]
    | ok u =>
        rw [bind_ok _ _ _ rfl]
        dsimp only
        rw [stop_refused self rest { c with state := .down } (fun h => by cases h),
          List.append_nil]
  rw [← hsplit] at hrun
  exact hrun

/-- A stop that gets to no instances leaves nothing behind. -/
theorem stop_unreached (envs : List Environment) (c : Cluster)
    (h : ∀ front env cloud rest, envs = front ++ env :: rest → (∀ e ∈ front, self.Skips c e) →
      ¬ Stops self c env cloud) :
    (self.startStopCluster "stop" envs c).trace = [] := by
  by_cases hready : c.state = .ready
  · induction envs with
    | nil => rfl
    | cons env rest ih =>
        rw [Installation.startStopCluster]
        cases hcloud : self.cloudOf env with
        | error e =>
            unfold Installation.startStopEnv
            rw [hcloud, bind_error _ _ e rfl, bind_error _ _ e rfl]
            rfl
        | ok cloud =>
            rw [startStopEnv_stop self env c cloud hcloud]
            by_cases hnone : instancesIn c env = []
            · -- nothing to stop here, so the rest decides
              rw [stopEnv_skips self env c cloud hready hnone, pure_bind']
              refine ih (fun front e cloud' rest' hsplit hfront => ?_)
              refine h (env :: front) e cloud' rest' (by rw [hsplit]; rfl) (fun e' he' => ?_)
              rcases List.mem_cons.mp he' with rfl | he'
              · exact ⟨⟨cloud, hcloud⟩, hnone⟩
              · exact hfront e' he'
            · -- the backends are all that is left to fail
              cases hbackends : self.backends self.stopKlass c with
              | ok u =>
                  exact absurd ⟨hcloud, hnone, hbackends⟩ (h [] env cloud rest rfl
                    (fun e he => absurd he List.not_mem_nil))
              | error e =>
                  have hraise : self.stopEnv cloud env c = ⟨[], .error e⟩ := by
                    unfold Installation.stopEnv
                    rw [if_neg (fun h => h hready), if_neg (fun h => hnone (List.isEmpty_iff.mp h)),
                      hbackends, bind_error _ _ e rfl]
                    rfl
                  rw [hraise, bind_error _ _ e rfl]
  · exact stop_refused self envs c hready

/-- What the run stopped, for the cloud it got to. -/
theorem allStopped_iff (c : Cluster) (env : Environment) (cloud : AbstractCloud)
    (hcloud : self.cloudOf env = .ok cloud) :
    AllStopped c (.saveCluster { c with state := .down } :: (self.stopping c env cloud).trace)
      ↔ StopsEverything c env cloud := by
  have htrace := mem_stop_trace cloud (cloudOf_cli self env cloud hcloud)
    (self.outside.schedule env) (instancesIn c env)
  have hone : ∀ n, StoppedIn (.saveCluster { c with state := .down }
      :: (self.stopping c env cloud).trace) n
        ↔ ∃ m ∈ instancesIn c env, StopsNode cloud (instancesIn c env) m ∧ SameInstance m n := by
    intro n
    constructor
    · rintro ⟨vm, hvm, hsame⟩
      rcases List.mem_cons.mp hvm with hvm | hvm
      · cases hvm
      · rcases (htrace _).mp hvm with ⟨m, hm, hstops, heq⟩
        rw [Event.stopInstance.inj heq] at hsame
        exact ⟨m, hm, hstops, hsame⟩
    · rintro ⟨m, hm, hstops, hsame⟩
      exact ⟨m.vm, List.mem_cons_of_mem _ ((htrace _).mpr ⟨m, hm, hstops, rfl⟩), hsame⟩
  exact forall₂_congr (fun e _ => forall₂_congr (fun n _ => hone n))

/-- A stop can be asked for again after every failure exactly when, should it
    get to the instances of an environment, the cloud of that one stops
    everything. -/
theorem stays_retryable_iff (dir : ClustersDir) (opens : Cluster → Except Exn Unit) (c : Cluster)
    (hload : loadCluster opens dir self.clusterName = .ok c) :
    StaysRetryable self dir c
      ↔ (c.state = .ready → ∀ front env cloud rest, self.Reaches c env cloud front rest →
          StopsEverything c env cloud) := by
  have hfile := loadCluster_ok opens dir self.clusterName c hload
  have hname := dir.named self.clusterName c hfile
  rw [← hname] at hfile
  constructor
  · intro h hready front env cloud rest hreaches
    have htrace := stop_reaches self c env cloud front rest hready hreaches
    have hafter := after_stopping self dir c env cloud
    rw [← htrace] at hafter
    have hall := h.down _ hafter (by rw [hready]; decide) rfl
    rw [htrace] at hall
    exact (allStopped_iff self c env cloud hreaches.2.2.cloudOf).mp hall
  · intro h
    -- no environment is reached, or the cluster is not ready, and nothing is done
    by_cases hreach : c.state = .ready ∧ ∃ front env cloud rest,
        self.Reaches c env cloud front rest
    · rcases hreach with ⟨hready, front, env, cloud, rest, hreaches⟩
      have hall := (allStopped_iff self c env cloud hreaches.2.2.cloudOf).mpr
        (h hready front env cloud rest hreaches)
      rw [← stop_reaches self c env cloud front rest hready hreaches] at hall
      exact ⟨fun _ _ _ _ => hall, fun _ _ hnot => absurd hall hnot⟩
    · have htrace : (self.startStopCluster "stop" c.envs c).trace = [] := by
        by_cases hready : c.state = .ready
        · refine stop_unreached self c.envs c (fun front env cloud rest hsplit hfront hstops => ?_)
          exact hreach ⟨hready, front, env, cloud, rest, hsplit, hfront, hstops⟩
        · exact stop_refused self c.envs c hready
      have hsame : ∀ f, (dir.after (self.startStopCluster "stop" c.envs c).trace).file
          c.clusterName = some f → f.state = c.state := by
        intro f hf
        rw [htrace] at hf
        rw [Option.some.inj (hf.symm.trans hfile)]
      refine ⟨fun f hf hup hdown => ?_, fun f hf _ => hsame f hf⟩
      rw [hsame f hf] at hdown
      exact absurd hdown hup

end Stop

section Examples

/-- A provider that refuses to stop anything. -/
def busyApi : CloudApi :=
  { obedientApi with stop := fun _ => .error ⟨.awsCli, "IncorrectInstanceState"⟩ }

def busyInstallation : Installation :=
  { devInstallation with outside := ⟨fun _ _ => busyApi, fun _ => Schedule.sequential Event⟩ }

/-- The provider refuses, nothing is stopped, and the file says down. -/
theorem refused_stop_down :
    (busyInstallation.startStopCluster "stop" [awsEnv "env_0"]
        (driversCluster .ready [awsEnv "env_0"] [driver0])).result
        = .error ⟨.awsCli, "IncorrectInstanceState"⟩
      ∧ ¬ StaysRetryable busyInstallation
        (dirOf (driversCluster .ready [awsEnv "env_0"] [driver0]))
        (driversCluster .ready [awsEnv "env_0"] [driver0]) := by
  refine ⟨rfl, fun h => ?_⟩
  have htrace : (busyInstallation.startStopCluster "stop" [awsEnv "env_0"]
      (driversCluster .ready [awsEnv "env_0"] [driver0])).trace
      = [.saveCluster (driversCluster .down [awsEnv "env_0"] [driver0])] := rfl
  have hall := h.down (driversCluster .down [awsEnv "env_0"] [driver0]).asFile rfl (by decide) rfl
    (awsEnv "env_0") List.mem_cons_self
    driver0 (by rw [driver0_instances]; exact List.mem_cons_self)
  rcases hall with ⟨vm, hvm, _⟩
  have hnone : Event.stopInstance vm ∈ [Event.saveCluster
      (driversCluster .down [awsEnv "env_0"] [driver0])] := by
    rw [← htrace]
    exact hvm
  cases List.mem_singleton.mp hnone

/-- A driver that is stopped is saved as down rightly. -/
theorem stopped_driver_down :
    StaysRetryable devInstallation (dirOf (driversCluster .ready [awsEnv "env_0"] [driver0]))
      (driversCluster .ready [awsEnv "env_0"] [driver0]) := by
  refine (stays_retryable_iff devInstallation
    (dirOf (driversCluster .ready [awsEnv "env_0"] [driver0])) (fun _ => .ok ())
    (driversCluster .ready [awsEnv "env_0"] [driver0]) rfl).mpr ?_
  rintro - front env cloud rest ⟨hsplit, _, hstops⟩ e he n hn
  -- there is one environment, with one driver
  have henv : env = awsEnv "env_0" := by
    have hmem : env ∈ [awsEnv "env_0"] := by
      rw [show [awsEnv "env_0"] = front ++ env :: rest from hsplit]
      exact List.mem_append_right _ List.mem_cons_self
    exact List.mem_singleton.mp hmem
  have he0 : e = awsEnv "env_0" := List.mem_singleton.mp he
  rw [he0, driver0_instances] at hn
  rw [henv] at hstops ⊢
  have hcloud : cloud = awsCloud := (Except.ok.inj hstops.cloudOf).symm
  rw [hcloud, driver0_instances, List.mem_singleton.mp hn]
  exact ⟨driver0, List.mem_cons_self, ⟨⟨"i-1", rfl, rfl⟩, rfl⟩, rfl, rfl⟩

end Examples

end Xbench
