import Xbench.Compute.RunRetried

/-!
# Running a Command on All Nodes

`MultiNode.run_on_all_nodes` gives a command to all nodes of a cluster and is
retried. A retry runs the command again on every node, and not only where it
failed. `runOnAllNodes_law` says that all nodes are asked equally often, at most
three times, whatever happens on each.

So a command is given at least once. `settled_iff` says what it takes that this
cannot be told from giving it once: that doing it twice on a node is doing it
once there.

## Main definitions

* `Remote.psshRun`: One attempt on all hosts.
* `Remote.runOnAllNodes`: The retried call for a cluster.
* `Remote.Fails`: An attempt fails on some host.
* `Remote.ClusterLaw`: What a call for a cluster comes to.
* `Remote.nodesAfter`: What the hosts are after a run.

## Theorems

* `psshRun_result`: What an attempt comes to.
* `runOnAllNodes_law`: All nodes are asked equally often.
* `call_spec`: What is left of a call on a node.
* `settled_iff`: When asking again cannot be told from asking once.
-/

namespace Xbench

open Effect

namespace Remote

/-- A host of a cluster, with the answers of the network to it, attempt by
    attempt. -/
structure Host where
  hostname : String
  answers : Nat → Answer

section Cluster

variable {α : Type} (fill : String → α → Except RunExn String)

/-- The commands of the hosts. With arguments the command is filled in for each
    host, before anything is run; an empty list is no list. -/
def hostCmds (cmd : String) (hosts : Nat) (hostArgs : List α) : Except RunExn (List String) :=
  if hostArgs.isEmpty then .ok (List.replicate hosts cmd)
  else (List.range hosts).mapM (fun i =>
    match hostArgs[i]? with
    | some args => fill cmd args
    | none => .error (.other "list index out of range"))

/-- The loop over the results: the first exception is raised. What is no
    `Exception` stays among the results. -/
def checkResults (shown : Shown) : List (Except RunExn HostOutput) → Except RunExn Unit
  | [] => .ok ()
  | .ok _ :: results => checkResults shown results
  | .error e :: results =>
      if e.isTimeout then
        .error (.psshClient ("Command " ++ shown.cmd ++ " timed out on one of the hosts"))
      else if e.isException then .error (.psshClient e.str)
      else checkResults shown results

/-- The calls of `_run_client` at an attempt. -/
def tasks (request : Request) (given : List (Host × String)) (attempt : Nat) :
    List (Effect Execution RunExn HostOutput) :=
  given.map (fun g => runClient g.1.hostname (g.1.answers attempt) g.2 request)

/-- `PsshClient.run`. -/
def psshRun (shown : Shown) (hosts : List Host) (request : Request) (hostArgs : List α)
    (σ : Schedule Execution) (attempt : Nat) :
    Effect Execution RunExn (List (Except RunExn HostOutput)) := do
  let cmds ← ofExcept (hostCmds fill (cleanCmd request.cmd) hosts.length hostArgs)
  let results ← gather σ (tasks { request with user := none } (hosts.zip cmds) attempt)
  let _ ← ofExcept (checkResults shown results)
  pure results

/-- `MultiNode.run_on_all_nodes`. -/
def runOnAllNodes (shown : Shown) (hosts : List Host) (request : Request) (hostArgs : List α)
    (σ : Nat → Schedule Execution) (clock : Nat → Int) :
    Effect Execution RunExn (List (Except RunExn HostOutput)) :=
  retrying multiRetry "run_on_all_nodes" shown clock
    (fun k => psshRun fill shown hosts request hostArgs (σ k) k)

/-- Something is wrong with a result. -/
def Wrong (r : Except RunExn HostOutput) : Prop :=
  ∃ e, r = .error e ∧ e.isException = true

theorem checkResults_ok_iff (shown : Shown) (results : List (Except RunExn HostOutput)) :
    checkResults shown results = .ok () ↔ ∀ r ∈ results, ¬ Wrong r := by
  induction results with
  | nil => exact ⟨fun _ r hr => absurd hr List.not_mem_nil, fun _ => rfl⟩
  | cons r results ih =>
      cases r with
      | ok o =>
          rw [checkResults, ih, List.forall_mem_cons]
          refine ⟨fun h => ⟨?_, h⟩, And.right⟩
          rintro ⟨e, he, _⟩
          cases he
      | error e =>
          rw [checkResults, List.forall_mem_cons]
          by_cases htimeout : e.isTimeout = true
          · rw [if_pos htimeout]
            refine ⟨fun h => (by cases h), fun h => absurd ⟨e, rfl, ?_⟩ h.1⟩
            cases e with
            | cancelled => cases htimeout
            | _ => rfl
          · rw [if_neg htimeout]
            by_cases hexception : e.isException = true
            · rw [if_pos hexception]
              exact ⟨fun h => (by cases h), fun h => absurd ⟨e, rfl, hexception⟩ h.1⟩
            · rw [if_neg hexception, ih]
              refine ⟨fun h => ⟨?_, h⟩, And.right⟩
              rintro ⟨e', he', hexception'⟩
              rw [← Except.error.inj he'] at hexception'
              exact hexception hexception'

/-- What is raised for a result is the exception of the clients. -/
theorem checkResults_error (shown : Shown) (results : List (Except RunExn HostOutput))
    (e : RunExn) (h : checkResults shown results = .error e) :
    ∃ message, e = .psshClient message := by
  induction results with
  | nil => cases h
  | cons r results ih =>
      cases r with
      | ok o => exact ih h
      | error e' =>
          rw [checkResults] at h
          by_cases htimeout : e'.isTimeout = true
          · rw [if_pos htimeout] at h
            exact ⟨_, (Except.error.inj h).symm⟩
          · rw [if_neg htimeout] at h
            by_cases hexception : e'.isException = true
            · rw [if_pos hexception] at h
              exact ⟨_, (Except.error.inj h).symm⟩
            · rw [if_neg hexception] at h
              exact ih h

theorem hostCmds_length (cmd : String) (hosts : Nat) (hostArgs : List α) (cmds : List String)
    (h : hostCmds fill cmd hosts hostArgs = .ok cmds) : cmds.length = hosts := by
  rw [hostCmds] at h
  by_cases hempty : hostArgs.isEmpty = true
  · rw [if_pos hempty] at h
    rw [← Except.ok.inj h, List.length_replicate]
  · rw [if_neg hempty] at h
    rw [← ((except_mapM_ok_iff _ _ _).mp h).length_eq, List.length_range]

theorem multiRetry_delays : multiRetry.delays ≠ [] := List.cons_ne_nil _ _

variable (shown : Shown) (hosts : List Host) (request : Request) (hostArgs : List α)

/-- What an attempt does, once the commands are there. -/
theorem psshRun_eq (cmds : List String) (σ : Schedule Execution) (attempt : Nat)
    (hcmds : hostCmds fill (cleanCmd request.cmd) hosts.length hostArgs = .ok cmds) :
    psshRun fill shown hosts request hostArgs σ attempt
      = ⟨(gather σ (tasks { request with user := none } (hosts.zip cmds) attempt)).trace,
          (checkResults shown ((tasks { request with user := none } (hosts.zip cmds) attempt).map
              Effect.result)).map (fun _ =>
            (tasks { request with user := none } (hosts.zip cmds) attempt).map Effect.result)⟩ := by
  rw [psshRun, hcmds, bind_ok _ _ cmds rfl, bind_ok _ _ _ rfl]
  cases hcheck : checkResults shown ((tasks { request with user := none } (hosts.zip cmds)
      attempt).map Effect.result) with
  | error e =>
      rw [bind_error _ _ e rfl]
      exact congrArg (Effect.mk · _) (by rw [trace_ofExcept, trace_ofExcept, List.append_nil]; rfl)
  | ok u =>
      rw [bind_ok _ _ u rfl]
      exact congrArg (Effect.mk · _)
        (by rw [trace_ofExcept, trace_ofExcept, trace_pure, List.append_nil, List.append_nil]; rfl)

/-- What each host does of an attempt. -/
theorem gather_times (given : List (Host × String)) (σ : Schedule Execution) (attempt : Nat)
    (hnames : (given.map (fun g => g.1.hostname)).Nodup) (g : Host × String) (hg : g ∈ given) :
    Repeating.times Execution.hostname g.1.hostname (gather σ (tasks request given attempt)).trace
      = if (g.1.answers attempt).ran then 1 else 0 := by
  have htrace := fun g' : Host × String =>
    runClient_trace g'.1.hostname (g'.1.answers attempt) g'.2 request
  have hperm : (gather σ (tasks request given attempt)).trace.Perm
      (given.flatMap (fun g => (runClient g.1.hostname (g.1.answers attempt) g.2 request).trace)) := by
    have hflat : ((tasks request given attempt).map Effect.trace).flatten = given.flatMap
        (fun g => (runClient g.1.hostname (g.1.answers attempt) g.2 request).trace) := by
      rw [tasks, List.map_map, List.flatMap_def]
      rfl
    rw [← hflat]
    exact interleaving_perm _ _ (σ.interleave_spec _)
  rw [Repeating.times_perm _ _ _ _ hperm,
    Repeating.times_flatMap_key Execution.hostname given (fun g => g.1.hostname) _ hnames
      (fun g' _ e he => ?_) g hg, htrace]
  · by_cases hran : (g.1.answers attempt).ran = true
    · rw [if_pos hran, if_pos hran]
      rfl
    · rw [if_neg hran, if_neg hran]
      rfl
  · rw [htrace] at he
    by_cases hran : (g'.1.answers attempt).ran = true
    · rw [if_pos hran] at he
      rw [List.mem_singleton.mp he]
      rfl
    · rw [if_neg hran] at he
      exact absurd he List.not_mem_nil

/-- What is run at an attempt is a command of a host. -/
theorem mem_gather_tasks (given : List (Host × String)) (σ : Schedule Execution) (attempt : Nat)
    (e : Execution) (he : e ∈ (gather σ (tasks request given attempt)).trace) :
    ∃ g ∈ given, e = Request.execution request g.1.hostname g.2 := by
  rcases (mem_gather_trace σ _ e).mp he with ⟨t, ht, het⟩
  rcases List.mem_map.mp ht with ⟨g, hg, rfl⟩
  rw [runClient_trace] at het
  by_cases hran : (g.1.answers attempt).ran = true
  · rw [if_pos hran] at het
    exact ⟨g, hg, List.mem_singleton.mp het⟩
  · rw [if_neg hran] at het
    exact absurd het List.not_mem_nil

/-- Something is wrong on a host at an attempt. -/
def Fails (request : Request) (given : List (Host × String)) (attempt : Nat) : Prop :=
  ∃ g ∈ given, Wrong (runClient g.1.hostname (g.1.answers attempt) g.2 request).result

/-- The results of an attempt, host by host. -/
def outputs (request : Request) (given : List (Host × String)) (attempt : Nat) :
    List (Except RunExn HostOutput) :=
  (tasks request given attempt).map Effect.result

theorem wrong_outputs_iff (given : List (Host × String)) (attempt : Nat) :
    (∃ r ∈ outputs request given attempt, Wrong r) ↔ Fails request given attempt := by
  constructor
  · rintro ⟨r, hr, hwrong⟩
    rcases List.mem_map.mp hr with ⟨t, ht, rfl⟩
    rcases List.mem_map.mp ht with ⟨g, hg, rfl⟩
    exact ⟨g, hg, hwrong⟩
  · rintro ⟨g, hg, hwrong⟩
    exact ⟨_, List.mem_map.mpr ⟨_, List.mem_map.mpr ⟨g, hg, rfl⟩, rfl⟩, hwrong⟩

/-- An attempt gives its results if nothing is wrong, and else raises the
    exception of the clients. -/
theorem psshRun_result (cmds : List String) (σ : Schedule Execution) (attempt : Nat)
    (hcmds : hostCmds fill (cleanCmd request.cmd) hosts.length hostArgs = .ok cmds) :
    (¬ Fails { request with user := none } (hosts.zip cmds) attempt
        ∧ (psshRun fill shown hosts request hostArgs σ attempt).result
          = .ok (outputs { request with user := none } (hosts.zip cmds) attempt))
      ∨ (Fails { request with user := none } (hosts.zip cmds) attempt
        ∧ ∃ message, (psshRun fill shown hosts request hostArgs σ attempt).result
          = .error (.psshClient message)) := by
  rw [psshRun_eq fill shown hosts request hostArgs cmds σ attempt hcmds,
    ← wrong_outputs_iff]
  have hok := checkResults_ok_iff shown
    (outputs { request with user := none } (hosts.zip cmds) attempt)
  cases hcheck : checkResults shown
      (outputs { request with user := none } (hosts.zip cmds) attempt) with
  | ok u =>
      refine Or.inl ⟨?_, ?_⟩
      · rintro ⟨r, hr, hwrong⟩
        exact hok.mp hcheck r hr hwrong
      · exact congrArg (Except.map _) hcheck
  | error e =>
      rcases checkResults_error shown _ e hcheck with ⟨message, rfl⟩
      refine Or.inr ⟨?_, message, congrArg (Except.map _) hcheck⟩
      by_contra hnone
      rw [hok.mpr (fun r hr hwrong => hnone ⟨r, hr, hwrong⟩)] at hcheck
      cases hcheck

/-- One of three attempts succeeds on every host, and each before failed in
    time. -/
def ComesToEnd (request : Request) (given : List (Host × String)) (clock : Nat → Int) : Prop :=
  ∃ k < 3, ¬ Fails request given k
    ∧ ∀ j < k, Fails request given j ∧ (Retry.timeWaited clock j : ℚ) ≤ 600

/-- What a call of `run_on_all_nodes` comes to, of the commands that the hosts
    are given, when attempt `k` is the last: each host runs its own command and
    nothing else, once for each attempt that reached it; each attempt before
    failed on some host; and the results are those of the last attempt, host by
    host, if nothing is wrong with them. -/
structure ClusterLaw (request : Request) (given : List (Host × String)) (k : Nat)
    (x : Effect Execution RunExn (List (Except RunExn HostOutput))) : Prop where
  only : ∀ e ∈ x.trace, ∃ g ∈ given, e = Request.execution request g.1.hostname g.2
  asked : ∀ g ∈ given, Repeating.times Execution.hostname g.1.hostname x.trace
    = (List.range (k + 1)).countP (fun i => (g.1.answers i).ran)
  earlier : ∀ j < k, Fails request given j
  returned : ∀ rs, x.result = .ok rs ↔ rs = outputs request given k ∧ ¬ Fails request given k
  raised : ∀ e, x.result = .error e → ∃ message, e = .multiNode message

section Law

variable (σ : Nat → Schedule Execution) (clock : Nat → Int) (cmds : List String)
  (hcmds : hostCmds fill (cleanCmd request.cmd) hosts.length hostArgs = .ok cmds)

include hcmds

/-- An attempt is repeated when it fails in time. -/
theorem retried_iff (i : Nat) :
    multiRetry.Retried (wrapped "run_on_all_nodes" shown
        (fun k => psshRun fill shown hosts request hostArgs (σ k) k)) clock i
      ↔ Fails { request with user := none } (hosts.zip cmds) i
        ∧ (Retry.timeWaited clock i : ℚ) ≤ 600 := by
  rcases psshRun_result fill shown hosts request hostArgs cmds (σ i) i hcmds with
    ⟨hfine, hresult⟩ | ⟨hfails, message, hresult⟩
  · refine ⟨?_, fun h => absurd h.1 hfine⟩
    rintro ⟨e, he, _⟩
    cases hresult.symm.trans he
  · exact ⟨fun ⟨e, _, _, htime⟩ => ⟨hfails, htime⟩, fun h => ⟨_, hresult, rfl, h.2⟩⟩

/-- A call returns when an attempt succeeds in time. -/
theorem runOnAllNodes_returns_iff :
    (∃ rs, (runOnAllNodes fill shown hosts request hostArgs σ clock).result = .ok rs)
      ↔ ComesToEnd { request with user := none } (hosts.zip cmds) clock := by
  have hthree : multiRetry.delays.length = 3 := rfl
  change (∃ rs, (multiRetry.decorate _ _ _).result = .ok rs) ↔ _
  rw [Retry.decorate_returns_iff _ _ _ _ multiRetry_delays, Retry.Succeeds, hthree]
  refine exists_congr fun k => and_congr_right fun _ => and_congr ?_ (forall₂_congr fun j _ =>
    retried_iff fill shown hosts request hostArgs σ clock cmds hcmds j)
  rcases psshRun_result fill shown hosts request hostArgs cmds (σ k) k hcmds with
    ⟨hfine, hresult⟩ | ⟨hfails, message, hresult⟩
  · exact ⟨fun _ => hfine, fun _ => ⟨_, hresult⟩⟩
  · refine ⟨?_, fun h => absurd hfails h⟩
    rintro ⟨rs, hrs⟩
    cases hresult.symm.trans hrs

/-- A call of `run_on_all_nodes` obeys the law, with three attempts at most. -/
theorem runOnAllNodes_obeys (hnames : (hosts.map Host.hostname).Nodup) :
    ∃ k < 3, ClusterLaw { request with user := none } (hosts.zip cmds) k
      (runOnAllNodes fill shown hosts request hostArgs σ clock) := by
  have hround := fun i => psshRun_eq fill shown hosts request hostArgs cmds (σ i) i hcmds
  have hresults := fun i => psshRun_result fill shown hosts request hostArgs cmds (σ i) i hcmds
  rcases retrying_spec multiRetry "run_on_all_nodes" shown clock
    (fun k => psshRun fill shown hosts request hostArgs (σ k) k) multiRetry_delays with
    ⟨k, hk, htrace, hresult, hbefore, _⟩
  have hzip : ((hosts.zip cmds).map (fun g => g.1.hostname)).Nodup := by
    have hlength := hostCmds_length fill _ _ _ _ hcmds
    have hfst : (hosts.zip cmds).map Prod.fst = hosts := List.map_fst_zip hlength.ge
    rw [← hfst, List.map_map] at hnames
    exact hnames
  refine ⟨k, hk, ?_, ?_, ?_, ?_, ?_⟩
  · intro e he
    change e ∈ (retrying _ _ _ _ _).trace at he
    rw [htrace] at he
    rcases List.mem_flatMap.mp he with ⟨i, _, hi⟩
    rw [hround] at hi
    exact mem_gather_tasks _ _ (σ i) i e hi
  · intro g hg
    change Repeating.times _ _ (retrying _ _ _ _ _).trace = _
    rw [htrace]
    refine Repeating.times_flatMap Execution.hostname g.1.hostname _ _ _ (fun i _ => ?_)
    rw [hround]
    exact gather_times _ _ (σ i) i hzip g hg
  · exact fun j hj =>
      ((retried_iff fill shown hosts request hostArgs σ clock cmds hcmds j).mp (hbefore j hj)).1
  · intro rs
    change (retrying _ _ _ _ _).result = _ ↔ _
    rw [hresult, multiRetry.wayOut_ok_iff]
    change (psshRun fill shown hosts request hostArgs (σ k) k).result = .ok rs ↔ _
    rcases hresults k with ⟨hfine, heq⟩ | ⟨hfails, message, heq⟩
    · rw [heq]
      exact ⟨fun h => ⟨(Except.ok.inj h).symm, hfine⟩, fun h => congrArg Except.ok h.1.symm⟩
    · rw [heq]
      exact ⟨fun h => (by cases h), fun h => absurd hfails h.2⟩
  · intro e he
    rcases retrying_raised _ _ _ _ _ e multiRetry_delays he with ⟨i, hi, hpasses⟩ | hmessage
    · -- what an attempt raises does not pass
      rcases hresults i with ⟨_, heq⟩ | ⟨_, message, heq⟩
      · cases heq.symm.trans hi
      · rw [← Except.error.inj (heq.symm.trans hi)] at hpasses
        rcases passes_cases _ _ _ _ _ hpasses with h | h
        · cases h
        · cases h
    · exact hmessage

/-- A call for a cluster asks all nodes equally often, and returns when an
    attempt succeeds everywhere in time. -/
theorem runOnAllNodes_law (hnames : (hosts.map Host.hostname).Nodup) :
    (∃ k < 3, ClusterLaw { request with user := none } (hosts.zip cmds) k
        (runOnAllNodes fill shown hosts request hostArgs σ clock))
      ∧ ((∃ rs, (runOnAllNodes fill shown hosts request hostArgs σ clock).result = .ok rs)
        ↔ ComesToEnd { request with user := none } (hosts.zip cmds) clock) :=
  ⟨runOnAllNodes_obeys fill shown hosts request hostArgs σ clock cmds hcmds hnames,
    runOnAllNodes_returns_iff fill shown hosts request hostArgs σ clock cmds hcmds⟩

end Law

/-- Two hosts, of which the second does not answer at first. -/
def pair : List Host :=
  [⟨"10.0.0.1", fun _ => .result ⟨0, "", ""⟩⟩,
    ⟨"10.0.0.2", fun i => if i = 0 then .lost false .timeout else .result ⟨0, "", ""⟩⟩]

theorem pair_law : (pair.map Host.hostname).Nodup
    ∧ (∃ k < 3, ClusterLaw uptime (pair.zip (List.replicate 2 "uptime")) k
        (runOnAllNodes (fun cmd (_ : String) => .ok cmd) uptimeShown pair uptime []
          (fun _ => Schedule.sequential Execution) (fun _ => 0)))
      ∧ ((∃ rs, (runOnAllNodes (fun cmd (_ : String) => .ok cmd) uptimeShown pair uptime []
          (fun _ => Schedule.sequential Execution) (fun _ => 0)).result = .ok rs)
        ↔ ComesToEnd uptime (pair.zip (List.replicate 2 "uptime")) (fun _ => 0)) :=
  ⟨by decide, runOnAllNodes_law (fun cmd (_ : String) => .ok cmd) uptimeShown pair uptime []
    (fun _ => Schedule.sequential Execution) (fun _ => 0) (List.replicate 2 "uptime") rfl
    (by decide)⟩

section Settled

variable {W : Type} (meaning : String → W → W) (s : String → W)

/-- What the hosts are after a run, by what running a line does to a host. -/
def nodesAfter (trace : List Execution) : String → W :=
  Repeating.after Execution.hostname (fun e => meaning e.ran.line) s trace

/-- The hosts of some names, with the answers to each. -/
def hostsOf (answers : String → Nat → Answer) (names : List String) : List Host :=
  names.map (fun name => ⟨name, answers name⟩)

/-- What a host is after a call: what the command makes of it, as often as it
    was run there. -/
theorem nodesAfter_law (given : List (Host × String)) (k : Nat)
    (x : Effect Execution RunExn (List (Except RunExn HostOutput)))
    (hlaw : ClusterLaw request given k x) (hnames : (given.map (fun g => g.1.hostname)).Nodup)
    (g : Host × String) (hg : g ∈ given) :
    nodesAfter meaning s x.trace g.1.hostname
      = (meaning (Request.execution request g.1.hostname g.2).ran.line)^[(List.range (k + 1)).countP
          (fun i => (g.1.answers i).ran)] (s g.1.hostname) := by
  rw [nodesAfter, Repeating.after_same Execution.hostname _ s g.1.hostname
    (meaning (Request.execution request g.1.hostname g.2).ran.line), hlaw.asked g hg]
  intro e he hhost
  -- of the hosts with this name there is one
  rcases hlaw.only e he with ⟨g', hg', rfl⟩
  have hsame : g' = g := List.inj_on_of_nodup_map hnames hg' hg hhost
  rw [hsame]

/-- An answer of a host that was run there. -/
def lostThenDone : Nat → Answer
  | 0 => .lost true .timeout
  | _ + 1 => .result ⟨0, "", ""⟩

/-- A command that comes to an end without an error. -/
theorem runClient_done (hostname cmd : String) :
    ∃ o, (runClient hostname (.result ⟨0, "", ""⟩) cmd request).result = .ok o := by
  rw [runClient_result, Xbench.runClient]
  simp only [tell_bind]
  rw [bind_ok _ _ _ rfl]
  exact ⟨_, rfl⟩

theorem lostThenDone_fails (given : List (Host × String)) (hne : given ≠ [])
    (h : ∀ g ∈ given, g.1.answers = lostThenDone) :
    Fails request given 0 ∧ ∀ i, ¬ Fails request given (i + 1) := by
  constructor
  · rcases List.exists_mem_of_ne_nil given hne with ⟨g, hg⟩
    refine ⟨g, hg, .timeout, ?_, rfl⟩
    rw [h g hg]
    rfl
  · rintro i ⟨g, hg, e, he, _⟩
    rcases runClient_done request g.1.hostname g.2 with ⟨o, ho⟩
    rw [h g hg, lostThenDone, ho] at he
    cases he

theorem zip_hostsOf (answers : String → Nat → Answer) (names cmds : List String) :
    (hostsOf answers names).zip cmds
      = (names.zip cmds).map (fun g => (⟨g.1, answers g.1⟩, g.2)) := by
  rw [hostsOf, List.zip_map_left]
  rfl

theorem hostsOf_names (answers : String → Nat → Answer) (names : List String) :
    (hostsOf answers names).map Host.hostname = names := by
  rw [hostsOf, List.map_map]
  exact List.map_id names

section Calls

variable (names cmds : List String) (hnames : names.Nodup)
  (hcmds : hostCmds fill (cleanCmd request.cmd) names.length hostArgs = .ok cmds)
  (answers : String → Nat → Answer) (σ : Nat → Schedule Execution) (clock : Nat → Int)

include hcmds

theorem hostCmds_hostsOf :
    hostCmds fill (cleanCmd request.cmd) (hostsOf answers names).length hostArgs = .ok cmds := by
  rw [hostsOf, List.length_map]
  exact hcmds

include hnames

/-- The law of a call, host by host. -/
theorem hostsOf_law : ∃ k < 3, ClusterLaw { request with user := none }
    ((hostsOf answers names).zip cmds) k
    (runOnAllNodes fill shown (hostsOf answers names) request hostArgs σ clock) :=
  runOnAllNodes_obeys fill shown _ request hostArgs σ clock cmds
    (hostCmds_hostsOf fill request hostArgs names cmds hcmds answers)
    ((hostsOf_names answers names).symm ▸ hnames)

/-- What a host is after a call. It runs its command at most three times, and at
    least once if the call returns the outputs of all hosts. -/
theorem call_spec (g : String × String) (hg : g ∈ names.zip cmds) :
    nodesAfter meaning s
        (runOnAllNodes fill shown (hostsOf answers names) request hostArgs σ clock).trace g.1
      = (meaning (remoteLine g.2 request.withSudo request.ignoreErrors none))^[Repeating.times
          Execution.hostname g.1
          (runOnAllNodes fill shown (hostsOf answers names) request hostArgs σ clock).trace] (s g.1)
      ∧ Repeating.times Execution.hostname g.1
          (runOnAllNodes fill shown (hostsOf answers names) request hostArgs σ clock).trace ≤ 3
      ∧ ∀ rs, (runOnAllNodes fill shown (hostsOf answers names) request hostArgs σ clock).result
          = .ok rs → (∀ r ∈ rs, ∃ o, r = .ok o) → 0 < Repeating.times Execution.hostname g.1
            (runOnAllNodes fill shown (hostsOf answers names) request hostArgs σ clock).trace := by
  rcases hostsOf_law fill shown request hostArgs names cmds hnames hcmds answers σ clock with
    ⟨k, hk, hlaw⟩
  have hpair : (⟨g.1, answers g.1⟩, g.2) ∈ (hostsOf answers names).zip cmds := by
    rw [zip_hostsOf]
    exact List.mem_map.mpr ⟨g, hg, rfl⟩
  have hdistinct : (((hostsOf answers names).zip cmds).map (fun g => g.1.hostname)).Nodup := by
    have hlength := hostCmds_length fill _ _ _ _
      (hostCmds_hostsOf fill request hostArgs names cmds hcmds answers)
    have hfst : ((hostsOf answers names).zip cmds).map Prod.fst = hostsOf answers names :=
      List.map_fst_zip hlength.ge
    have hsplit : ((hostsOf answers names).zip cmds).map (fun g => g.1.hostname)
        = (((hostsOf answers names).zip cmds).map Prod.fst).map Host.hostname :=
      (List.map_map).symm
    rw [hsplit, hfst, hostsOf_names]
    exact hnames
  have hasked := hlaw.asked _ hpair
  refine ⟨?_, ?_, ?_⟩
  · rw [hasked]
    exact nodesAfter_law _ meaning s _ k _ hlaw hdistinct _ hpair
  · rw [hasked]
    refine List.countP_le_length.trans ?_
    rw [List.length_range]
    omega
  · intro rs hrs hall
    -- the last attempt gave an output, so it was run there
    have hmem : (runClient g.1 (answers g.1 k) g.2 { request with user := none }).result ∈ rs := by
      rw [((hlaw.returned rs).mp hrs).1]
      exact List.mem_map.mpr ⟨_, List.mem_map.mpr ⟨_, hpair, rfl⟩, rfl⟩
    rcases hall _ hmem with ⟨o, ho⟩
    rcases runClient_ok _ _ _ _ o ho with ⟨r, hr, _⟩
    rw [hasked]
    refine List.countP_pos_iff.mpr ⟨k, List.mem_range.mpr (Nat.lt_succ_self k), ?_⟩
    change (answers g.1 k).ran = true
    rw [hr]
    rfl

end Calls

/-- In a call whose first attempt is lost everywhere after it was run, every host
    runs its command twice, and the outputs of all are returned. -/
theorem lost_twice (names cmds : List String) (hnames : names.Nodup) (hne : names.zip cmds ≠ [])
    (hcmds : hostCmds fill (cleanCmd request.cmd) names.length hostArgs = .ok cmds) :
    (∃ rs, (runOnAllNodes fill shown (hostsOf (fun _ => lostThenDone) names) request hostArgs
        (fun _ => Schedule.sequential Execution) (fun _ => 0)).result = .ok rs
        ∧ ∀ r ∈ rs, ∃ o, r = .ok o)
      ∧ ∀ g ∈ names.zip cmds, Repeating.times Execution.hostname g.1
        (runOnAllNodes fill shown (hostsOf (fun _ => lostThenDone) names) request hostArgs
          (fun _ => Schedule.sequential Execution) (fun _ => 0)).trace = 2 := by
  have hcmds' := hostCmds_hostsOf fill request hostArgs names cmds hcmds (fun _ => lostThenDone)
  rcases hostsOf_law fill shown request hostArgs names cmds hnames hcmds (fun _ => lostThenDone)
    (fun _ => Schedule.sequential Execution) (fun _ => 0) with ⟨k, _, hlaw⟩
  have hanswers : ∀ g ∈ (hostsOf (fun _ => lostThenDone) names).zip cmds,
      g.1.answers = lostThenDone := by
    intro g hg
    rw [zip_hostsOf] at hg
    rcases List.mem_map.mp hg with ⟨p, _, rfl⟩
    rfl
  have hsome : (hostsOf (fun _ => lostThenDone) names).zip cmds ≠ [] := by
    rw [zip_hostsOf]
    exact fun h => hne (List.map_eq_nil_iff.mp h)
  rcases lostThenDone_fails { request with user := none } _ hsome hanswers with ⟨hfirst, hlater⟩
  rcases (runOnAllNodes_returns_iff fill shown _ request hostArgs
    (fun _ => Schedule.sequential Execution) (fun _ => 0) cmds hcmds').mpr
    ⟨1, by decide, hlater 0, fun j hj => by
      rw [Nat.lt_one_iff.mp hj]
      exact ⟨hfirst, by decide⟩⟩ with ⟨rs, hrs⟩
  have hreturned := (hlaw.returned rs).mp hrs
  -- the second attempt is the last
  have hk : k = 1 := by
    rcases k with _ | _ | k
    · exact absurd hfirst hreturned.2
    · rfl
    · exact absurd (hlaw.earlier 1 (by omega)) (hlater 0)
  subst hk
  refine ⟨⟨rs, hrs, fun r hr => ?_⟩, fun g hg => ?_⟩
  · rw [hreturned.1] at hr
    rcases List.mem_map.mp hr with ⟨t, ht, rfl⟩
    rcases List.mem_map.mp ht with ⟨g, hg, rfl⟩
    rw [hanswers g hg, lostThenDone]
    exact runClient_done { request with user := none } g.1.hostname g.2
  · have hpair : (⟨g.1, lostThenDone⟩, g.2) ∈ (hostsOf (fun _ => lostThenDone) names).zip cmds := by
      rw [zip_hostsOf]
      exact List.mem_map.mpr ⟨g, hg, rfl⟩
    exact hlaw.asked _ hpair

/-- That a host is after a call as if it had run its command once, in every call
    that returns the outputs of all hosts, takes that doing the command twice is
    doing it once, for each host as it was. -/
theorem settled_iff (names cmds : List String) (hnames : names.Nodup)
    (hcmds : hostCmds fill (cleanCmd request.cmd) names.length hostArgs = .ok cmds) :
    (∀ answers σ clock rs,
        (runOnAllNodes fill shown (hostsOf answers names) request hostArgs σ clock).result = .ok rs
          → (∀ r ∈ rs, ∃ o, r = .ok o)
          → ∀ g ∈ names.zip cmds, nodesAfter meaning s
              (runOnAllNodes fill shown (hostsOf answers names) request hostArgs σ clock).trace g.1
            = meaning (remoteLine g.2 request.withSudo request.ignoreErrors none) (s g.1))
      ↔ ∀ g ∈ names.zip cmds,
        meaning (remoteLine g.2 request.withSudo request.ignoreErrors none)
            (meaning (remoteLine g.2 request.withSudo request.ignoreErrors none) (s g.1))
          = meaning (remoteLine g.2 request.withSudo request.ignoreErrors none) (s g.1) := by
  constructor
  · intro h g hg
    rcases lost_twice fill shown request hostArgs names cmds hnames (List.ne_nil_of_mem hg) hcmds
      with ⟨⟨rs, hrs, hall⟩, htwice⟩
    have honce := h _ _ _ rs hrs hall g hg
    rw [(call_spec fill shown request hostArgs meaning s names cmds hnames hcmds _ _ _ g hg).1,
      htwice g hg] at honce
    exact honce
  · intro h answers σ clock rs hrs hall g hg
    rcases call_spec fill shown request hostArgs meaning s names cmds hnames hcmds answers σ clock
      g hg with ⟨hafter, _, hran⟩
    rw [hafter]
    exact Repeating.iterate_settled _ _ _ (h g hg) (hran rs hrs hall)

end Settled

end Cluster

/-- A log on each of two hosts, to which a command appends. -/
theorem log_settled :
    (∀ answers σ clock rs,
        (runOnAllNodes (fun cmd (_ : String) => .ok cmd) uptimeShown
          (hostsOf answers ["10.0.0.1", "10.0.0.2"]) uptime [] σ clock).result = .ok rs
          → (∀ r ∈ rs, ∃ o, r = .ok o)
          → ∀ g ∈ ["10.0.0.1", "10.0.0.2"].zip (List.replicate 2 "uptime"),
            nodesAfter (fun line (log : List String) => log ++ [line]) (fun _ => [])
              (runOnAllNodes (fun cmd (_ : String) => .ok cmd) uptimeShown
                (hostsOf answers ["10.0.0.1", "10.0.0.2"]) uptime [] σ clock).trace g.1
            = [] ++ [remoteLine g.2 true false none])
      ↔ ∀ g ∈ ["10.0.0.1", "10.0.0.2"].zip (List.replicate 2 "uptime"),
        ([] ++ [remoteLine g.2 true false none]) ++ [remoteLine g.2 true false none]
          = [] ++ [remoteLine g.2 true false none] :=
  settled_iff (fun cmd (_ : String) => .ok cmd) uptimeShown uptime []
    (fun line (log : List String) => log ++ [line]) (fun _ => []) ["10.0.0.1", "10.0.0.2"]
    (List.replicate 2 "uptime") (by decide) rfl

end Remote

end Xbench
