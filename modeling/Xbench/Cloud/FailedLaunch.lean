import Xbench.Cloud.Launching
import Xbench.Cloud.Termination

/-!
# What a Failed Launch Locks

The lock file after a launch of colo hosts that ended with an exception.

Lines are appended one by one while hosts are selected, and the deployment comes
after all of them. Nothing takes a line back, so the file after an exception has
the lines of every request that was served before it, wherever it came from: a
later request for which there is no host, or any of the deployments. It is the
file before only if the first request already failed, or if the launch did not
begin at all.

## Main definitions

* `lockFileAfter`: The lock file after a trace of events.
* `Colo.Servable`: A request can be served from a queue.

## Theorems

* `Colo.getHost_isOk_iff`: A request is served when it can be.
* `Colo.lockHosts_appends`: The loop appends the lines of the hosts it took.
* `lockFile_launch`: The lock file after a launch.
* `launch_unlocked_iff`: When a failed launch locks nothing.
-/

namespace Xbench

open Effect

/-- The lock file after a trace of events. -/
def lockFileAfter (file : String) (trace : List Event) : String :=
  trace.foldl (fun file e =>
    match e with
    | .writeLockFile file' => file'
    | _ => file) file

theorem lockFileAfter_unwritten (file : String) (trace : List Event)
    (h : ∀ e ∈ trace, ∀ file', e ≠ .writeLockFile file') : lockFileAfter file trace = file := by
  induction trace with
  | nil => rfl
  | cons e trace ih =>
      have hrest := ih (fun e' he' => h e' (List.mem_cons_of_mem e he'))
      cases e with
      | writeLockFile file' => exact absurd rfl (h _ List.mem_cons_self file')
      | _ => exact hrest

namespace Colo

/-- A request can be served from a queue: it passes the test of availability,
    and one of the hosts that the recursion comes to suits it. -/
def Servable (self : Sproutsys) (depth : Nat) (queue : List HostName) (params : Params) : Prop :=
  checkNodeAvailability self (params.read "count") (params.read "instance_type") = .ok ()
    ∧ ∃ host ∈ queue.take depth, Suits (params.read "instance_type") host

section Serve

variable (self : Sproutsys)

theorem suits_iff (kind : Value) (host : HostName) :
    Suits kind host ↔ kindMatches kind host = .ok true := by
  refine ⟨?_, kindMatches_suits kind host⟩
  rintro ⟨k, rfl, h⟩
  unfold kindMatches
  rcases h with h | h
  · simp [h]
  · simp [h]

/-- A host that does not suit may go to the back. -/
theorem servable_turn (depth : Nat) (x : HostName) (queue : List HostName) (kind : Value)
    (hx : ¬ Suits kind x) :
    (∃ host ∈ (queue ++ [x]).take depth, Suits kind host)
      ↔ ∃ host ∈ (x :: queue).take (depth + 1), Suits kind host := by
  rw [List.take_succ_cons, List.take_append]
  constructor
  · rintro ⟨host, hhost, hsuits⟩
    rcases List.mem_append.mp hhost with hmem | hmem
    · exact ⟨host, List.mem_cons_of_mem x hmem, hsuits⟩
    · rw [List.mem_singleton.mp (List.mem_of_mem_take hmem)] at hsuits
      exact absurd hsuits hx
  · rintro ⟨host, hhost, hsuits⟩
    rcases List.mem_cons.mp hhost with rfl | hmem
    · exact absurd hsuits hx
    · exact ⟨host, List.mem_append_left _ hmem, hsuits⟩

/-- A request is served when it can be. -/
theorem getHost_isOk_iff (depth : Nat) (queue : List HostName) (params : Params) :
    (∃ found, getHostForInstance self depth queue params = .ok found)
      ↔ Servable self depth queue params := by
  unfold Servable
  induction depth generalizing queue params with
  | zero =>
      rw [List.take_zero]
      constructor
      · rintro ⟨found, hfound⟩
        cases queue with
        | nil => cases hfound
        | cons x queue => cases hfound
      · rintro ⟨_, host, hhost, _⟩
        exact absurd hhost List.not_mem_nil
  | succ depth ih =>
      cases queue with
      | nil =>
          constructor
          · rintro ⟨found, hfound⟩
            cases hfound
          · rintro ⟨_, host, hhost, _⟩
            exact absurd hhost List.not_mem_nil
      | cons x queue =>
          have hkind : (params.set "colo_host" (.str x.text)).read "instance_type"
              = params.read "instance_type" :=
            Dict.read_set_other params "colo_host" "instance_type" _ (by decide)
          have hcount : (params.set "colo_host" (.str x.text)).read "count"
              = params.read "count" :=
            Dict.read_set_other params "colo_host" "count" _ (by decide)
          have hrec := ih (queue ++ [x]) (params.set "colo_host" (.str x.text))
          rw [hkind, hcount] at hrec
          rw [getHostForInstance]
          cases hcheck : checkNodeAvailability self (params.read "count")
              (params.read "instance_type") with
          | error e =>
              constructor
              · rintro ⟨found, hfound⟩
                cases hfound
              · exact fun h => by cases h.1
          | ok u =>
              simp only [hkind]
              by_cases hx : Suits (params.read "instance_type") x
              · -- the host at the front suits
                have hmatch := (suits_iff _ x).mp hx
                rw [hmatch]
                exact ⟨fun _ => ⟨trivial, x, List.mem_cons_self, hx⟩, fun _ => ⟨_, rfl⟩⟩
              · rw [← servable_turn depth x queue _ hx]
                cases hmatch : kindMatches (params.read "instance_type") x with
                | error e =>
                    constructor
                    · rintro ⟨found, hfound⟩
                      cases hfound
                    · -- only a type that is no string is an error
                      rintro ⟨_, host, _, k, hk, _⟩
                      rw [hk] at hmatch
                      cases hmatch
                | ok b =>
                    cases b with
                    | true => exact absurd ((suits_iff _ x).mpr hmatch) hx
                    | false =>
                        rw [hcheck, and_iff_right rfl] at hrec
                        rw [true_and]
                        exact hrec

/-- The loop appends the lines of the hosts it took, whatever the file. -/
theorem lockHosts_appends (depth : Nat) (instances : List Params) (queue : List HostName)
    (file : String) :
    (lockHosts self depth instances queue file).file
      = file ++ render ((lockHosts self depth instances queue file).hosts.map
          (fun host => ⟨host, self.clusterName⟩)) := by
  induction instances generalizing queue file with
  | nil => exact (String.append_empty).symm
  | cons params rest ih =>
      rw [lockHosts]
      cases hfound : getHostForInstance self depth queue params with
      | error e => exact (String.append_empty).symm
      | ok found =>
          dsimp only
          rw [ih found.hostList (lock file ⟨found.host, self.clusterName⟩), List.map_cons]
          have hone : ∀ es : List Entry, render (⟨found.host, self.clusterName⟩ :: es)
              = (Entry.line ⟨found.host, self.clusterName⟩ ++ "\n") ++ render es := by
            intro es
            have hlock := lock_render [] ⟨found.host, self.clusterName⟩
            rw [render_nil, lock, String.empty_append, List.nil_append] at hlock
            rw [← List.singleton_append, render_append, hlock]
          rw [hone, lock, String.append_assoc]

/-- Hosts were taken exactly when the first request was served. -/
theorem lockHosts_hosts_nil_iff (depth : Nat) (instances : List Params) (queue : List HostName)
    (file : String) :
    (lockHosts self depth instances queue file).hosts = []
      ↔ ∀ first rest, instances = first :: rest → ¬ Servable self depth queue first := by
  cases instances with
  | nil => exact ⟨fun _ first rest h => (by cases h), fun _ => rfl⟩
  | cons params rest =>
      rw [lockHosts]
      cases hfound : getHostForInstance self depth queue params with
      | error e =>
          refine ⟨fun _ first rest' h hservable => ?_, fun _ => rfl⟩
          rw [← (List.cons.inj h).1] at hservable
          rcases (getHost_isOk_iff self depth queue params).mpr hservable with ⟨found, hok⟩
          rw [hfound] at hok
          cases hok
      | ok found =>
          refine ⟨fun h => (by cases h), fun h => ?_⟩
          exact absurd ((getHost_isOk_iff self depth queue params).mp ⟨found, hfound⟩)
            (h params rest rfl)

/-- A line is not nothing. -/
theorem append_render_eq_iff (file : String) (es : List Entry) :
    file ++ render es = file ↔ es = [] := by
  constructor
  · intro h
    have hrender : render es = render [] := by
      rw [← String.toList_inj] at h ⊢
      rw [String.toList_append] at h
      exact List.append_right_eq_self.mp h
    exact List.length_eq_zero_iff.mp (render_inj_length es [] hrender)
  · rintro rfl
    exact String.append_empty

end Serve

end Colo

section Launch

variable (self : AbstractCloud)

/-- Deploying to a host leaves the lock file alone. -/
theorem deployHost_trace (params : Params) : (deployHost self params).trace = [] := by
  have htriple : Triple (fun _ => False) (fun _ => True) (deployHost self params) := by
    unfold deployHost
    refine triple_step _ _ _ _ (fun vm _ => ?_)
    cases vm.network with
    | none => exact triple_raise _ _ _
    | some network =>
        exact triple_step _ _ _ _ (fun _ _ => triple_step _ _ _ _ (fun _ _ =>
          triple_pure _ _ _ trivial))
  exact List.eq_nil_iff_forall_not_mem.mpr htriple.trace

/-- The loop of a launch under the PID file. -/
def coloRun (instances : List Params) : Colo.LockRun :=
  Colo.lockHosts self.api.colo.sproutsys self.api.colo.depth instances
    self.api.colo.sproutsys.hostList self.api.colo.lockFile

/-- Deploying to hosts leaves the lock file alone. -/
theorem launchInstances_unlocked (σ : Schedule Event) (locked : List Params) :
    ∀ e ∈ (launchInstances σ (deployHost self) locked).trace,
      ∀ file, e ≠ .writeLockFile file := by
  intro e he
  unfold launchInstances at he
  rw [runParallelReturning_dicts] at he
  rcases (mem_parallel_trace σ _ e).mp he with ⟨t, ht, het⟩
  rcases List.mem_map.mp ht with ⟨params, _, rfl⟩
  dsimp only at het
  rw [deployHost_trace] at het
  exact absurd het List.not_mem_nil

/-- The lock file after a launch that was let in: the lines of the hosts it
    took, whatever came of it. -/
theorem lockFile_launch (σ : Schedule Event) (instances : List Params)
    (hpid : self.api.colo.pidLocked = false) :
    lockFileAfter self.api.colo.lockFile (coloLaunchInstances self σ instances).trace
      = (coloRun self instances).file := by
  -- the file is written once, before the hosts are recorded
  have hmade : ∀ e ∈ (instances.zip (coloRun self instances).hosts).map (fun x =>
      Event.createInstance (x.1.read "env").text (some (coloId self.clusterName x.1 x.2))),
      ∀ file, e ≠ .writeLockFile file := by
    intro e he file
    rcases List.mem_map.mp he with ⟨x, _, rfl⟩
    exact fun h => nomatch h
  have hlock : coloLockHosts self instances
      = ⟨.writeLockFile (coloRun self instances).file
          :: (instances.zip (coloRun self instances).hosts).map (fun x =>
            .createInstance (x.1.read "env").text (some (coloId self.clusterName x.1 x.2))),
        (coloRun self instances).result⟩ := by
    unfold coloLockHosts
    rw [tell_bind, bind_ok _ _ () rfl]
    dsimp only
    rw [trace_ofExcept, List.append_nil]
    rfl
  unfold coloLaunchInstances
  rw [if_neg (by rw [hpid]; exact Bool.false_ne_true), hlock]
  cases hres : (coloRun self instances).result with
  | error e =>
      rw [bind_error _ _ e rfl]
      exact lockFileAfter_unwritten _ _ hmade
  | ok locked =>
      rw [bind_ok _ _ locked rfl]
      dsimp only
      rw [List.cons_append]
      refine lockFileAfter_unwritten (coloRun self instances).file _ (fun e he => ?_)
      rcases List.mem_append.mp he with he | he
      · exact hmade e he
      · exact launchInstances_unlocked self σ locked e he

/-- A failed launch locks nothing exactly when it was not let in, or its first
    request could not be served. -/
theorem launch_unlocked_iff (σ : Schedule Event) (instances : List Params) (e : Exn)
    (hraise : (coloLaunchInstances self σ instances).result = .error e) :
    lockFileAfter self.api.colo.lockFile (coloLaunchInstances self σ instances).trace
        = self.api.colo.lockFile
      ↔ self.api.colo.pidLocked = true
        ∨ ∀ first rest, instances = first :: rest → ¬ Colo.Servable self.api.colo.sproutsys
          self.api.colo.depth self.api.colo.sproutsys.hostList first := by
  cases hpid : self.api.colo.pidLocked with
  | true =>
      refine ⟨fun _ => Or.inl rfl, fun _ => ?_⟩
      unfold coloLaunchInstances
      rw [if_pos hpid]
      rfl
  | false =>
      rw [lockFile_launch self σ instances hpid, coloRun, Colo.lockHosts_appends,
        Colo.append_render_eq_iff, List.map_eq_nil_iff, Colo.lockHosts_hosts_nil_iff]
      exact ⟨Or.inr, fun h => h.resolve_left Bool.false_ne_true⟩

end Launch

section Examples

/-- A colo cloud with one free host of the kind `yang`. -/
def oneYang : AbstractCloud where
  clusterName := "dev"
  cloudType := .colo
  regionConfig := Dict.empty
  cli := some .colo
  api := { obedientApi with colo := ⟨Colo.colo Colo.dev Colo.yang10, 1, "", false⟩ }

/-- One instance on any host of another kind. -/
def yinRequest : Params :=
  Dict.ofList [("name", .str "driver-0"), ("instance_type", .str "yin"), ("count", .int 1)]

/-- A launch that is refused at once locks nothing. -/
theorem yin_unlocked : lockFileAfter oneYang.api.colo.lockFile
    (coloLaunchInstances oneYang (.sequential Event) [yinRequest]).trace
      = oneYang.api.colo.lockFile := by
  have hcheck : Colo.checkNodeAvailability oneYang.api.colo.sproutsys (yinRequest.read "count")
      (yinRequest.read "instance_type") ≠ .ok () := fun h => nomatch h
  refine (launch_unlocked_iff oneYang (.sequential Event) [yinRequest] _ rfl).mpr (Or.inr ?_)
  intro first rest hfirst hservable
  rw [← (List.cons.inj hfirst).1] at hservable
  exact hcheck hservable.1

/-- A second request without a host leaves the line of the first. -/
theorem yang_locked : ¬ ∀ (self : AbstractCloud) (σ : Schedule Event) (instances : List Params)
    (e : Exn), (coloLaunchInstances self σ instances).result = .error e →
    lockFileAfter self.api.colo.lockFile (coloLaunchInstances self σ instances).trace
      = self.api.colo.lockFile := by
  intro h
  have hsame := h oneYang (.sequential Event) [Colo.yangRequest, Colo.yangRequest] _ rfl
  have hline : lockFileAfter oneYang.api.colo.lockFile (coloLaunchInstances oneYang
      (.sequential Event) [Colo.yangRequest, Colo.yangRequest]).trace = "yang10-dev\n" := rfl
  rw [hline] at hsame
  exact absurd hsame (by decide)

/-- So does a deployment that fails. -/
example : (coloLaunchInstances oneYang (.sequential Event) [Colo.yangRequest]).result.isOk = false
    ∧ lockFileAfter oneYang.api.colo.lockFile
      (coloLaunchInstances oneYang (.sequential Event) [Colo.yangRequest]).trace
        = "yang10-dev\n" :=
  ⟨rfl, rfl⟩

end Examples

end Xbench
