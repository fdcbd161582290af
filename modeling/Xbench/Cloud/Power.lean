import Xbench.Lib.Triple
import Xbench.Cloud.Clouds
import Xbench.Compute.ClusterFile

/-!
# Stopping and Starting in a Cloud

For which instances `stop_instances` and `start_instances` do what they are
asked, cloud by cloud.

An instance counts as stopped when its identifier was stopped in its
environment; a provider may refuse. Only AWS and GCP stop each instance; the second SkySQL stops the
service of the first, which is that of the others if they are its copies; the
first SkySQL and the colo cloud log a warning, and the rest have nothing that
could stop an instance. Starting is asked only of the first three, and only AWS
gives a node back that can take the place of the old one.

## Main definitions

* `StoppedIn`: An instance was stopped.
* `StartedIn`: A start was asked for an instance.
* `StopsNode`: An instance that a cloud stops.
* `Stoppable`: The instances a cloud stops.
* `restartedNode`: The node of an instance that was started.
* `Startable`: The instances a cloud starts.
* `PowerEvent`: What stopping and starting do.

## Theorems

* `mem_stop_trace`: What stopping stops.
* `stopInstancesOf_iff`: Stopping does what it is asked.
* `startInstancesOf_nodes`: The nodes that come back from starting.
* `startInstancesOf_iff`: Starting does what it is asked.
* `stopInstancesOf_power`: Stopping does nothing but stop.
* `startInstancesOf_power`: Starting does nothing but start.
-/

namespace Xbench

open Effect

/-- The instance was stopped. -/
def StoppedIn (trace : List Event) (n : Node) : Prop :=
  ∃ vm, Event.stopInstance vm ∈ trace ∧ vm.env = n.vm.env ∧ vm.id = n.vm.id

/-- A start was asked for the instance. -/
def StartedIn (trace : List Event) (n : Node) : Prop :=
  ∃ vm, Event.startInstance vm ∈ trace ∧ vm.env = n.vm.env ∧ vm.id = n.vm.id

/-- An identifier of an instance that AWS manages. -/
def AwsInstance (n : Node) : Prop :=
  ∃ id, n.vm.id = some id ∧ awsManaged id = true

/-- An instance that a cloud stops when it is asked for several. -/
def StopsNode (self : AbstractCloud) (instances : List Node) (n : Node) : Prop :=
  match self.cloudType with
  | .aws => AwsInstance n ∧ self.api.stop n.vm = .ok ()
  | .gcp => n.vm.id ≠ none ∧ self.api.stop n.vm = .ok ()
  | .skySql2 => instances.head? = some n ∧ self.api.stop n.vm = .ok ()
  | _ => False

/-- The instances a cloud stops. -/
def Stoppable (self : AbstractCloud) (instances : List Node) : Prop :=
  match self.cloudType with
  | .aws => ∀ n ∈ instances, AwsInstance n ∧ self.api.stop n.vm = .ok ()
  | .gcp => ∀ n ∈ instances, n.vm.id ≠ none ∧ self.api.stop n.vm = .ok ()
  | .skySql2 => ∃ first rest, instances = first :: rest ∧ self.api.stop first.vm = .ok ()
      ∧ ∀ n ∈ instances, first.vm.id = n.vm.id
  | _ => False

/-- The machine of an instance that was started on AWS. -/
def restartedVm (self : AbstractCloud) (n : Node) (ips : String × String) : VirtualMachine :=
  { computeFromVm self .awsEc2 n.vm with
    network := some { VirtualNetwork.default with publicIp := ips.1, privateIp := ips.2 } }

/-- The node of an instance that was started on AWS. -/
def restartedNode (self : AbstractCloud) (n : Node) : Option Node :=
  match self.api.describe n.vm with
  | .ok ips => (Node.ofVm self.api.sshOptions (restartedVm self n ips)).toOption
  | .error _ => none

/-- The instances a cloud starts. -/
def Startable (self : AbstractCloud) (instances : List Node) : Prop :=
  match self.cloudType with
  | .aws => ∀ n ∈ instances, AwsInstance n ∧ ∃ m, restartedNode self n = some m
  | .colo | .skySql | .skySql2 => False
  | _ => instances = []

section Pool

variable {α : Type} (σ : Schedule Event) (fn : Node → Command α) (instances : List Node)

/-- A pool over nodes returns when the routine returns for each. -/
theorem pool_ok_iff :
    (∃ l, (parallel σ (instances.map fn)).result = .ok l)
      ↔ ∀ n ∈ instances, ∃ a, (fn n).result = .ok a := by
  rw [parallel_isOk_iff]
  simp only [List.mem_map, forall_exists_index, and_imp, forall_apply_eq_imp_iff₂]

theorem mem_pool_trace (e : Event) :
    e ∈ (parallel σ (instances.map fn)).trace ↔ ∃ n ∈ instances, e ∈ (fn n).trace := by
  rw [mem_parallel_trace]
  simp only [List.mem_map, exists_exists_and_eq_and]

end Pool

section Stop

variable (self : AbstractCloud)

theorem stopInstances_eq (σ : Schedule Event) (instances : List Node) :
    stopInstances self σ instances
      = (parallel σ (instances.map (stopInstance self)) >>= fun _ => pure ()) := by
  unfold stopInstances
  rw [runParallel_nodes]

theorem mem_stopped_trace (vm : VirtualMachine) (e : Event) :
    e ∈ (stopped self vm).trace ↔ e = .stopInstance vm ∧ self.api.stop vm = .ok () := by
  unfold stopped
  cases hstop : self.api.stop vm with
  | error c =>
      rw [bind_error _ _ c rfl]
      exact ⟨fun h => absurd h List.not_mem_nil, fun h => (by cases h.2)⟩
  | ok u =>
      rw [bind_ok _ _ u rfl]
      exact ⟨fun h => ⟨List.mem_singleton.mp h, rfl⟩, fun h => List.mem_singleton.mpr h.1⟩

theorem stopped_result (vm : VirtualMachine) :
    (stopped self vm).result = .ok () ↔ self.api.stop vm = .ok () := by
  unfold stopped
  cases hstop : self.api.stop vm with
  | error c => exact ⟨fun h => (by cases h), fun h => (by cases h)⟩
  | ok u => exact ⟨fun _ => rfl, fun _ => rfl⟩

/-- What comes of stopping one instance of AWS. -/
theorem stopInstance_aws (hcli : self.cli = some .aws) (n : Node) :
    ((stopInstance self n).result = .ok ()
        ↔ n.vm.id ≠ none ∧ (AwsInstance n → self.api.stop n.vm = .ok ()))
      ∧ ∀ e, e ∈ (stopInstance self n).trace
        ↔ e = .stopInstance n.vm ∧ AwsInstance n ∧ self.api.stop n.vm = .ok () := by
  unfold stopInstance AwsInstance
  rw [hcli, createCompute, bind_ok _ _ .awsEc2 rfl]
  dsimp only
  cases hid : n.vm.id with
  | none =>
      refine ⟨⟨fun h => (by cases h), fun h => absurd rfl h.1⟩, fun e => ?_⟩
      refine ⟨fun h => absurd h List.not_mem_nil, ?_⟩
      rintro ⟨_, ⟨id, hnone, _⟩, _⟩
      cases hnone
  | some id =>
      by_cases hmanaged : awsManaged id = true
      · have haws : ∃ id', some id = some id' ∧ awsManaged id' = true := ⟨id, rfl, hmanaged⟩
        simp only [hmanaged, if_true, trace_ofExcept, List.nil_append, stopped_result,
          mem_stopped_trace, true_and, haws, forall_const]
        exact ⟨⟨fun h => ⟨fun hnone => (by cases hnone), h⟩, fun h => h.2⟩, fun _ => trivial⟩
      · have haws : ¬ ∃ id', some id = some id' ∧ awsManaged id' = true := by
          rintro ⟨id', hid', hmanaged'⟩
          rw [← Option.some.inj hid'] at hmanaged'
          exact hmanaged hmanaged'
        simp only [hmanaged, Bool.false_eq_true, if_false]
        refine ⟨⟨fun _ => ⟨fun h => (by cases h), fun h => absurd h haws⟩, fun _ => rfl⟩,
          fun e => ⟨fun h => absurd h List.not_mem_nil, fun h => absurd h.2.1 haws⟩⟩

/-- What comes of stopping one instance of GCP. -/
theorem stopInstance_gcp (hcli : self.cli = some .gcp) (n : Node) :
    ((stopInstance self n).result = .ok ()
        ↔ n.vm.id ≠ none ∧ (n.vm.id ≠ none → self.api.stop n.vm = .ok ()))
      ∧ ∀ e, e ∈ (stopInstance self n).trace
        ↔ e = .stopInstance n.vm ∧ n.vm.id ≠ none ∧ self.api.stop n.vm = .ok () := by
  unfold stopInstance
  rw [hcli, createCompute, bind_ok _ _ .gcpCompute rfl]
  dsimp only
  cases n.vm.id with
  | none =>
      refine ⟨⟨fun h => (by cases h), fun h => absurd rfl h.1⟩, fun e => ?_⟩
      exact ⟨fun h => absurd h List.not_mem_nil, fun h => absurd rfl h.2.1⟩
  | some id =>
      have hsome : some id ≠ none := fun h => by cases h
      simp only [trace_ofExcept, List.nil_append, stopped_result, mem_stopped_trace, hsome, ne_eq,
        not_false_eq_true, true_and, forall_const, implies_true, and_self]

section Pools

variable (σ : Schedule Event) (instances : List Node) (Managed : Node → Prop)

/-- A cloud that stops instances one by one stops those it manages and does
    not refuse. -/
theorem mem_stopInstances_trace
    (hone : ∀ n e, e ∈ (stopInstance self n).trace
      ↔ e = .stopInstance n.vm ∧ Managed n ∧ self.api.stop n.vm = .ok ()) (e : Event) :
    e ∈ (stopInstances self σ instances).trace
      ↔ ∃ n ∈ instances, (Managed n ∧ self.api.stop n.vm = .ok ()) ∧ e = .stopInstance n.vm := by
  have htrace : (stopInstances self σ instances).trace
      = (parallel σ (instances.map (stopInstance self))).trace := by
    rw [stopInstances_eq]
    exact trace_bind_ofExcept _ (fun _ => .ok ())
  rw [htrace, mem_pool_trace]
  constructor
  · rintro ⟨n, hn, he⟩
    exact ⟨n, hn, ((hone n e).mp he).2, ((hone n e).mp he).1⟩
  · rintro ⟨n, hn, hstops, he⟩
    exact ⟨n, hn, (hone n e).mpr ⟨he, hstops⟩⟩

/-- It does what it is asked when it stops each of them. -/
theorem stopInstances_iff
    (hone : ∀ n, ((stopInstance self n).result = .ok ()
        ↔ n.vm.id ≠ none ∧ (Managed n → self.api.stop n.vm = .ok ()))
      ∧ ∀ e, e ∈ (stopInstance self n).trace
        ↔ e = .stopInstance n.vm ∧ Managed n ∧ self.api.stop n.vm = .ok ())
    (hid : ∀ n, Managed n → n.vm.id ≠ none)
    (hcongr : ∀ n m, n.vm.id = m.vm.id → Managed n → Managed m) :
    ((stopInstances self σ instances).result = .ok ()
        ∧ ∀ n ∈ instances, StoppedIn (stopInstances self σ instances).trace n)
      ↔ ∀ n ∈ instances, Managed n ∧ self.api.stop n.vm = .ok () := by
  have htrace := mem_stopInstances_trace self σ instances Managed (fun n => (hone n).2)
  constructor
  · rintro ⟨hok, hstopped⟩ n hn
    rcases hstopped n hn with ⟨vm, hvm, _, hvmid⟩
    rcases (htrace _).mp hvm with ⟨m, _, ⟨hm, _⟩, heq⟩
    rw [Event.stopInstance.inj heq] at hvmid
    -- another instance may have the identifier, so ask what its own stop came to
    rw [stopInstances_eq] at hok
    rcases bind_result_ok _ _ _ hok with ⟨l, hl, _⟩
    rcases (pool_ok_iff σ (stopInstance self) instances).mp ⟨l, hl⟩ n hn with ⟨_, hres⟩
    have hmanaged := hcongr m n hvmid hm
    exact ⟨hmanaged, ((hone n).1.mp hres).2 hmanaged⟩
  · intro hall
    refine ⟨?_, fun n hn => ⟨n.vm, (htrace _).mpr ⟨n, hn, hall n hn, rfl⟩, rfl, rfl⟩⟩
    rcases (pool_ok_iff σ (stopInstance self) instances).mpr
      (fun n hn => ⟨(), (hone n).1.mpr ⟨hid n (hall n hn).1, fun _ => (hall n hn).2⟩⟩)
      with ⟨l, hl⟩
    rw [stopInstances_eq, bind_ok _ _ l hl]
    rfl

/-- A cloud whose instances cannot be stopped stops none. -/
theorem stopInstances_error (hone : ∀ n, (stopInstance self n).result ≠ .ok ())
    (hne : instances ≠ []) : (stopInstances self σ instances).result ≠ .ok () := by
  intro hok
  rw [stopInstances_eq] at hok
  rcases bind_result_ok _ _ _ hok with ⟨l, hl, _⟩
  rcases List.exists_mem_of_ne_nil instances hne with ⟨n, hn⟩
  rcases (pool_ok_iff σ (stopInstance self) instances).mp ⟨l, hl⟩ n hn with ⟨_, hres⟩
  exact hone n hres

theorem stopInstances_nothing (hone : ∀ n, (stopInstance self n).trace = []) (e : Event) :
    e ∉ (stopInstances self σ instances).trace := by
  intro he
  have htrace := mem_stopInstances_trace self σ instances (fun _ => False)
    (fun n e => by rw [hone]; simp only [List.not_mem_nil, false_and, and_false])
  rcases (htrace e).mp he with ⟨_, _, hfalse, _⟩
  exact hfalse.1

end Pools

theorem stopInstance_noCompute (e : Exn) (h : createCompute self.cli = .error e) (n : Node) :
    stopInstance self n = ⟨[], .error e⟩ := by
  unfold stopInstance
  rw [h, bind_error _ _ e rfl]
  rfl

theorem stopInstance_alloyDB (hcli : self.cli = some .alloyDB) (n : Node) :
    (stopInstance self n).trace = [] ∧ (stopInstance self n).result ≠ .ok () := by
  unfold stopInstance
  rw [hcli, createCompute, bind_ok _ _ .gcpAlloyDBCompute rfl]
  exact ⟨rfl, fun hok => by cases hok⟩

/-- The clouds that have nothing to stop an instance with. -/
theorem stopInstance_unsupported (hcli : createCli (cloudTypeOf self.cloudType) = .ok self.cli)
    (htype : self.cloudType = .rds ∨ self.cloudType = .aurora ∨ self.cloudType = .ephemeral
      ∨ self.cloudType = .alloyDB) (n : Node) :
    (stopInstance self n).trace = [] ∧ (stopInstance self n).result ≠ .ok () := by
  rcases htype with htype | htype | htype | htype <;> rw [htype] at hcli
  · rw [stopInstance_noCompute self _ (by rw [← Except.ok.inj hcli]; rfl)]
    exact ⟨rfl, fun hok => by cases hok⟩
  · rw [stopInstance_noCompute self _ (by rw [← Except.ok.inj hcli]; rfl)]
    exact ⟨rfl, fun hok => by cases hok⟩
  · rw [stopInstance_noCompute self _ (by rw [← Except.ok.inj hcli]; rfl)]
    exact ⟨rfl, fun hok => by cases hok⟩
  · exact stopInstance_alloyDB self (Except.ok.inj hcli).symm n

/-- What stopping stops. -/
theorem mem_stop_trace (hcli : createCli (cloudTypeOf self.cloudType) = .ok self.cli)
    (σ : Schedule Event) (instances : List Node) (e : Event) :
    e ∈ (stopInstancesOf self σ instances).trace
      ↔ ∃ n ∈ instances, StopsNode self instances n ∧ e = .stopInstance n.vm := by
  -- where no node is stopped there is nothing to find in the trace
  have hnone : (∀ e, e ∉ (stopInstancesOf self σ instances).trace) →
      (∀ n, ¬ StopsNode self instances n) → (e ∈ (stopInstancesOf self σ instances).trace
        ↔ ∃ n ∈ instances, StopsNode self instances n ∧ e = .stopInstance n.vm) := by
    intro htrace hstops
    refine ⟨fun he => absurd he (htrace e), ?_⟩
    rintro ⟨n, _, hn, _⟩
    exact absurd hn (hstops n)
  unfold stopInstancesOf StopsNode at *
  have hunsupported := stopInstance_unsupported self hcli
  cases htype : self.cloudType with
  | aws =>
      rw [htype] at hcli
      exact mem_stopInstances_trace self σ instances AwsInstance
        (fun n => (stopInstance_aws self (Except.ok.inj hcli).symm n).2) e
  | gcp =>
      rw [htype] at hcli
      exact mem_stopInstances_trace self σ instances (fun n => n.vm.id ≠ none)
        (fun n => (stopInstance_gcp self (Except.ok.inj hcli).symm n).2) e
  | skySql2 =>
      cases instances with
      | nil =>
          refine ⟨fun he => absurd he List.not_mem_nil, ?_⟩
          rintro ⟨n, hn, _⟩
          exact absurd hn List.not_mem_nil
      | cons first rest =>
          -- only the first instance is stopped, and the others with it
          dsimp only [List.head?_cons]
          rw [mem_stopped_trace]
          constructor
          · rintro ⟨he, hstop⟩
            exact ⟨first, List.mem_cons_self, ⟨rfl, hstop⟩, he⟩
          · rintro ⟨n, _, ⟨hfirst, hstop⟩, he⟩
            rw [← Option.some.inj hfirst] at hstop he
            exact ⟨he, hstop⟩
  | colo | skySql =>
      rw [htype] at hnone
      exact hnone (fun _ => List.not_mem_nil) (fun _ h => h)
  | rds =>
      rw [htype] at hnone
      exact hnone (stopInstances_nothing self σ instances
        (fun n => (hunsupported (Or.inl htype) n).1)) (fun _ h => h)
  | aurora =>
      rw [htype] at hnone
      exact hnone (stopInstances_nothing self σ instances
        (fun n => (hunsupported (Or.inr (Or.inl htype)) n).1)) (fun _ h => h)
  | ephemeral =>
      rw [htype] at hnone
      exact hnone (stopInstances_nothing self σ instances
        (fun n => (hunsupported (Or.inr (Or.inr (Or.inl htype))) n).1)) (fun _ h => h)
  | alloyDB =>
      rw [htype] at hnone
      exact hnone (stopInstances_nothing self σ instances
        (fun n => (hunsupported (Or.inr (Or.inr (Or.inr htype))) n).1)) (fun _ h => h)

/-- Stopping does what it is asked. -/
theorem stopInstancesOf_iff (hcli : createCli (cloudTypeOf self.cloudType) = .ok self.cli)
    (σ : Schedule Event) (env : String) (instances : List Node) (hne : instances ≠ [])
    (henv : ∀ n ∈ instances, n.vm.env = env) :
    ((stopInstancesOf self σ instances).result = .ok ()
        ∧ ∀ n ∈ instances, StoppedIn (stopInstancesOf self σ instances).trace n)
      ↔ Stoppable self instances := by
  have hunsupported := stopInstance_unsupported self hcli
  unfold stopInstancesOf Stoppable
  cases htype : self.cloudType with
  | aws =>
      rw [htype] at hcli
      refine stopInstances_iff self σ instances AwsInstance
        (stopInstance_aws self (Except.ok.inj hcli).symm) ?_ ?_
      · rintro n ⟨id, hid, _⟩ hnone
        rw [hid] at hnone
        cases hnone
      · rintro n m hnm ⟨id, hid, hmanaged⟩
        exact ⟨id, hnm ▸ hid, hmanaged⟩
  | gcp =>
      rw [htype] at hcli
      exact stopInstances_iff self σ instances (fun n => n.vm.id ≠ none)
        (stopInstance_gcp self (Except.ok.inj hcli).symm) (fun _ h => h) (fun _ _ hnm h => hnm ▸ h)
  | skySql2 =>
      cases instances with
      | nil => exact absurd rfl hne
      | cons first rest =>
          dsimp only
          constructor
          · rintro ⟨hok, hstopped⟩
            refine ⟨first, rest, rfl, (stopped_result self first.vm).mp hok, fun n hn => ?_⟩
            rcases hstopped n hn with ⟨vm, hvm, _, hid⟩
            rw [mem_stopped_trace] at hvm
            rw [Event.stopInstance.inj hvm.1] at hid
            exact hid
          · rintro ⟨first', rest', heq, hstop, hsame⟩
            rw [← (List.cons.inj heq).1] at hstop hsame
            refine ⟨(stopped_result self first.vm).mpr hstop, fun n hn => ?_⟩
            refine ⟨first.vm, (mem_stopped_trace self _ _).mpr ⟨rfl, hstop⟩, ?_, hsame n hn⟩
            rw [henv first List.mem_cons_self, henv n hn]
  | colo | skySql =>
      -- a warning is logged and nothing is asked
      refine ⟨fun h => ?_, fun h => h.elim⟩
      rcases List.exists_mem_of_ne_nil instances hne with ⟨n, hn⟩
      rcases h.2 n hn with ⟨vm, hvm, _⟩
      exact absurd hvm List.not_mem_nil
  | rds =>
      refine ⟨fun h => ?_, fun h => h.elim⟩
      exact stopInstances_error self σ instances
        (fun n => (hunsupported (Or.inl htype) n).2) hne h.1
  | aurora =>
      refine ⟨fun h => ?_, fun h => h.elim⟩
      exact stopInstances_error self σ instances
        (fun n => (hunsupported (Or.inr (Or.inl htype)) n).2) hne h.1
  | ephemeral =>
      refine ⟨fun h => ?_, fun h => h.elim⟩
      exact stopInstances_error self σ instances
        (fun n => (hunsupported (Or.inr (Or.inr (Or.inl htype))) n).2) hne h.1
  | alloyDB =>
      refine ⟨fun h => ?_, fun h => h.elim⟩
      exact stopInstances_error self σ instances
        (fun n => (hunsupported (Or.inr (Or.inr (Or.inr htype))) n).2) hne h.1

end Stop

section Start

variable (self : AbstractCloud)

theorem startInstances_eq (σ : Schedule Event) (instances : List Node) :
    startInstances self σ instances = parallel σ (instances.map (startInstance self)) := by
  unfold startInstances
  rw [runParallelReturning_nodes]

/-- What comes of starting one instance of AWS. -/
theorem startInstance_aws (hcli : self.cli = some .aws) (n : Node) :
    (∀ o, (startInstance self n).result = .ok o
        ↔ AwsInstance n ∧ ∃ m, restartedNode self n = some m ∧ o = some m)
      ∧ (AwsInstance n → Event.startInstance n.vm ∈ (startInstance self n).trace) := by
  unfold startInstance AwsInstance
  rw [hcli, createCompute, bind_ok _ _ .awsEc2 rfl]
  dsimp only
  cases hid : n.vm.id with
  | none =>
      refine ⟨fun o => ⟨fun h => (nomatch h), ?_⟩, ?_⟩
      · rintro ⟨⟨id, hnone, _⟩, _⟩
        exact nomatch hnone
      · rintro ⟨id, hnone, _⟩
        exact nomatch hnone
  | some id =>
      by_cases hmanaged : awsManaged id = true
      · simp only [hmanaged, if_true]
        refine ⟨fun o => ?_, fun _ => List.mem_cons_self⟩
        rw [tell_bind]
        dsimp only
        unfold restartedNode
        -- a node is restarted if it is described and made anew
        cases hdescribe : self.api.describe n.vm with
        | error e =>
            refine ⟨fun h => (nomatch h), ?_⟩
            rintro ⟨_, m, hm, _⟩
            exact nomatch hm
        | ok ips =>
            rw [bind_ok _ _ ips rfl]
            dsimp only
            cases hnode : Node.ofVm self.api.sshOptions (restartedVm self n ips) with
            | error e =>
                unfold restartedVm at hnode
                rw [hnode]
                refine ⟨fun h => (nomatch h), ?_⟩
                rintro ⟨_, m, hm, _⟩
                exact nomatch hm
            | ok node =>
                unfold restartedVm at hnode
                rw [hnode]
                constructor
                · intro h
                  exact ⟨⟨id, rfl, hmanaged⟩, node, rfl, (Except.ok.inj h).symm⟩
                · rintro ⟨_, m, hm, rfl⟩
                  rw [← Option.some.inj hm]
                  rfl
      · simp only [hmanaged, Bool.false_eq_true, if_false]
        refine ⟨fun o => ⟨fun h => (nomatch h), ?_⟩, ?_⟩
        · rintro ⟨⟨id', hid', hmanaged'⟩, _⟩
          rw [← Option.some.inj hid'] at hmanaged'
          exact absurd hmanaged' hmanaged
        · rintro ⟨id', hid', hmanaged'⟩
          rw [← Option.some.inj hid'] at hmanaged'
          exact absurd hmanaged' hmanaged

theorem startInstance_gcp (hcli : self.cli = some .gcp) (n : Node) (o : Option Node) :
    (startInstance self n).result ≠ .ok o := by
  unfold startInstance
  rw [hcli, createCompute, bind_ok _ _ .gcpCompute rfl]
  cases n.vm.id with
  | none => exact fun hok => nomatch hok
  | some id => exact fun hok => nomatch hok

theorem startInstance_alloyDB (hcli : self.cli = some .alloyDB) (n : Node) (o : Option Node) :
    (startInstance self n).result ≠ .ok o := by
  unfold startInstance
  rw [hcli, createCompute, bind_ok _ _ .gcpAlloyDBCompute rfl]
  exact fun hok => nomatch hok

theorem startInstance_noCompute (e : Exn) (h : createCompute self.cli = .error e) (n : Node)
    (o : Option Node) : (startInstance self n).result ≠ .ok o := by
  unfold startInstance
  rw [h, bind_error _ _ e rfl]
  exact fun hok => nomatch hok

/-- A cloud that gives no node back starts only nothing. -/
theorem startInstances_none (σ : Schedule Event) (instances : List Node)
    (hone : ∀ n o, (startInstance self n).result ≠ .ok o) :
    (∃ l, (startInstances self σ instances).result = .ok l) ↔ instances = [] := by
  rw [startInstances_eq, pool_ok_iff]
  constructor
  · intro hall
    by_contra hne
    rcases List.exists_mem_of_ne_nil instances hne with ⟨n, hn⟩
    rcases hall n hn with ⟨o, ho⟩
    exact hone n o ho
  · rintro rfl n hn
    exact absurd hn List.not_mem_nil

/-- The clouds that start instances through the pool. -/
def pooled : CloudType → Bool
  | .colo => false
  | .skySql => false
  | .skySql2 => false
  | _ => true

theorem startInstancesOf_pooled (σ : Schedule Event) (instances : List Node)
    (h : pooled self.cloudType = true) :
    startInstancesOf self σ instances
      = (startInstances self σ instances >>= fun nodes => pure (some nodes)) := by
  unfold startInstancesOf
  cases htype : self.cloudType with
  | colo | skySql | skySql2 =>
      rw [htype] at h
      exact nomatch h
  | _ => rfl

/-- Of the clouds of the pool, all but AWS start only nothing. -/
theorem startInstance_unsupported (hcli : createCli (cloudTypeOf self.cloudType) = .ok self.cli)
    (haws : self.cloudType ≠ .aws) (h : pooled self.cloudType = true) (n : Node)
    (o : Option Node) : (startInstance self n).result ≠ .ok o := by
  cases htype : self.cloudType with
  | aws => exact absurd htype haws
  | colo | skySql | skySql2 =>
      rw [htype] at h
      exact nomatch h
  | gcp =>
      rw [htype] at hcli
      exact startInstance_gcp self (Except.ok.inj hcli).symm n o
  | alloyDB =>
      rw [htype] at hcli
      exact startInstance_alloyDB self (Except.ok.inj hcli).symm n o
  | rds | aurora =>
      rw [htype] at hcli
      refine startInstance_noCompute self ⟨.cloud, "Compute type not implemented for CLI"⟩ ?_ n o
      rw [← Except.ok.inj hcli]
      rfl
  | ephemeral =>
      rw [htype] at hcli
      refine startInstance_noCompute self
        ⟨.cloud, "Compute type not implemented for CLI: None"⟩ ?_ n o
      rw [← Except.ok.inj hcli]
      rfl

theorem startable_pooled (instances : List Node) (haws : self.cloudType ≠ .aws) :
    Startable self instances ↔ pooled self.cloudType = true ∧ instances = [] := by
  unfold Startable
  cases htype : self.cloudType with
  | aws => exact absurd htype haws
  | colo | skySql | skySql2 => exact ⟨fun h => h.elim, fun h => (nomatch h.1)⟩
  | _ => exact ⟨fun h => ⟨rfl, h⟩, fun h => h.2⟩

/-- A cloud off the pool gives nothing that could be iterated over. -/
theorem startInstancesOf_unpooled (σ : Schedule Event) (instances : List Node)
    (h : pooled self.cloudType = false) (nodes : List (Option Node)) :
    (startInstancesOf self σ instances).result ≠ .ok (some nodes) := by
  unfold startInstancesOf
  cases htype : self.cloudType with
  | colo | skySql => exact fun hok => nomatch hok
  | skySql2 =>
      cases instances with
      | nil => exact fun hok => nomatch hok
      | cons n rest => exact fun hok => nomatch hok
  | _ =>
      rw [htype] at h
      exact nomatch h

/-- Starting does what it is asked. -/
theorem startInstancesOf_iff (hcli : createCli (cloudTypeOf self.cloudType) = .ok self.cli)
    (σ : Schedule Event) (instances : List Node) :
    ((∃ nodes, (startInstancesOf self σ instances).result = .ok (some nodes))
        ∧ ∀ n ∈ instances, StartedIn (startInstancesOf self σ instances).trace n)
      ↔ Startable self instances := by
  by_cases haws : self.cloudType = .aws
  · have hpooled : pooled self.cloudType = true := by rw [haws]; rfl
    rw [startInstancesOf_pooled self σ instances hpooled, startInstances_eq]
    rw [haws] at hcli
    -- only the compute instances of AWS can be started
    have hone := startInstance_aws self (Except.ok.inj hcli).symm
    unfold Startable
    rw [haws]
    dsimp only
    constructor
    · rintro ⟨⟨nodes, hok⟩, _⟩ n hn
      rcases bind_result_ok _ _ _ hok with ⟨l, hl, _⟩
      rcases (pool_ok_iff σ (startInstance self) instances).mp ⟨l, hl⟩ n hn with ⟨o, ho⟩
      rcases ((hone n).1 o).mp ho with ⟨hmanaged, m, hm, _⟩
      exact ⟨hmanaged, m, hm⟩
    · intro hall
      have hpool := (pool_ok_iff σ (startInstance self) instances).mpr (fun n hn => by
        rcases hall n hn with ⟨hmanaged, m, hm⟩
        exact ⟨some m, ((hone n).1 (some m)).mpr ⟨hmanaged, m, hm, rfl⟩⟩)
      rcases hpool with ⟨l, hl⟩
      rw [bind_ok _ _ l hl, trace_pure, List.append_nil]
      refine ⟨⟨l, rfl⟩, fun n hn => ⟨n.vm, ?_, rfl, rfl⟩⟩
      rw [mem_pool_trace]
      exact ⟨n, hn, (hone n).2 (hall n hn).1⟩
  · rw [startable_pooled self instances haws]
    by_cases hpooled : pooled self.cloudType = true
    -- with the others the pool comes to nothing unless there is no node
    · have hnone := startInstances_none self σ instances
        (startInstance_unsupported self hcli haws hpooled)
      rw [startInstancesOf_pooled self σ instances hpooled]
      constructor
      · rintro ⟨⟨nodes, hok⟩, _⟩
        rcases bind_result_ok _ _ _ hok with ⟨l, hl, _⟩
        exact ⟨hpooled, hnone.mp ⟨l, hl⟩⟩
      · rintro ⟨_, hempty⟩
        rcases hnone.mpr hempty with ⟨l, hl⟩
        rw [bind_ok _ _ l hl]
        refine ⟨⟨l, rfl⟩, fun n hn => ?_⟩
        rw [hempty] at hn
        exact absurd hn List.not_mem_nil
    · refine ⟨?_, fun h => absurd h.1 hpooled⟩
      rintro ⟨⟨nodes, hok⟩, _⟩
      exact absurd hok (startInstancesOf_unpooled self σ instances
        (Bool.eq_false_iff.mpr hpooled) nodes)

/-- The nodes that come back are those of the instances that were started, in
    some order. -/
theorem startInstancesOf_nodes (hcli : createCli (cloudTypeOf self.cloudType) = .ok self.cli)
    (σ : Schedule Event) (instances : List Node) (nodes : List (Option Node))
    (hstart : Startable self instances)
    (h : (startInstancesOf self σ instances).result = .ok (some nodes)) :
    nodes.Perm (instances.map (restartedNode self)) := by
  have hpooled : pooled self.cloudType = true := by
    by_contra hnot
    exact startInstancesOf_unpooled self σ instances (Bool.eq_false_iff.mpr hnot) nodes h
  rw [startInstancesOf_pooled self σ instances hpooled, startInstances_eq] at h
  rcases bind_result_ok _ _ _ h with ⟨l, hl, hlnodes⟩
  rw [← Option.some.inj (Except.ok.inj hlnodes)]
  have hperm := parallel_ok σ _ l hl
  have hinj : Function.Injective (Except.ok : Option Node → Except Exn (Option Node)) :=
    fun _ _ => Except.ok.inj
  refine (List.map_perm_map_iff hinj).mp (hperm.symm.trans (List.Perm.of_eq ?_))
  rw [List.map_map, List.map_map]
  refine List.map_congr_left (fun n hn => ?_)
  by_cases haws : self.cloudType = .aws
  · rw [haws] at hcli
    unfold Startable at hstart
    rw [haws] at hstart
    rcases hstart n hn with ⟨hmanaged, m, hm⟩
    have hone := (startInstance_aws self (Except.ok.inj hcli).symm n).1 (some m)
    rw [Function.comp_apply, Function.comp_apply, hm]
    exact hone.mpr ⟨hmanaged, m, hm, rfl⟩
  · rw [((startable_pooled self instances haws).mp hstart).2] at hn
    exact absurd hn List.not_mem_nil

/-- A started node keeps its environment and its name. -/
theorem restartedNode_spec (n m : Node) (h : restartedNode self n = some m) :
    m.vm.env = n.vm.env ∧ m.vm.name = n.vm.name := by
  unfold restartedNode at h
  cases hdescribe : self.api.describe n.vm with
  | error e =>
      rw [hdescribe] at h
      exact nomatch h
  | ok ips =>
      rw [hdescribe] at h
      dsimp only at h
      cases hnode : Node.ofVm self.api.sshOptions (restartedVm self n ips) with
      | error e =>
          rw [hnode] at h
          exact nomatch h
      | ok node =>
          rw [hnode] at h
          rw [← Option.some.inj h, ofVm_vm _ _ _ hnode]
          exact ⟨rfl, rfl⟩

end Start

section Unwritten

variable (self : AbstractCloud)

/-- What stopping and starting instances do. -/
def PowerEvent (instances : List Node) (e : Event) : Prop :=
  ∃ n ∈ instances, e = .stopInstance n.vm ∨ e = .startInstance n.vm

variable (instances : List Node)

theorem power_unwritten (e : Event) (h : PowerEvent instances e) : e.writesFile = false := by
  rcases h with ⟨n, _, rfl | rfl⟩ <;> rfl

theorem triple_stop (n : Node) (hn : n ∈ instances) :
    Triple (PowerEvent instances) (fun _ => True) (stopped self n.vm) :=
  triple_step _ _ _ _ (fun _ _ => triple_tell _ _ ⟨n, hn, Or.inl rfl⟩)

theorem triple_start (n : Node) (hn : n ∈ instances) :
    Triple (PowerEvent instances) (fun _ => True) (tell (.startInstance n.vm) : Command Unit) :=
  triple_tell _ _ ⟨n, hn, Or.inr rfl⟩

theorem stopInstance_power (n : Node) (hn : n ∈ instances) :
    Triple (PowerEvent instances) (fun _ => True) (stopInstance self n) := by
  unfold stopInstance
  refine triple_step _ _ _ _ (fun klass _ => ?_)
  cases klass with
  | awsEc2 =>
      cases n.vm.id with
      | none => exact triple_raise _ _ _
      | some id =>
          by_cases hmanaged : awsManaged id = true
          · simp only [hmanaged, if_true]
            exact triple_stop self instances n hn
          · simp only [hmanaged, Bool.false_eq_true, if_false]
            exact triple_pure _ _ _ trivial
  | gcpCompute =>
      cases n.vm.id with
      | none => exact triple_raise _ _ _
      | some id => exact triple_stop self instances n hn
  | _ => exact triple_raise _ _ _

theorem startInstance_power (n : Node) (hn : n ∈ instances) :
    Triple (PowerEvent instances) (fun _ => True) (startInstance self n) := by
  unfold startInstance
  refine triple_step _ _ _ _ (fun klass _ => ?_)
  cases klass with
  | awsEc2 =>
      cases n.vm.id with
      | none => exact triple_raise _ _ _
      | some id =>
          by_cases hmanaged : awsManaged id = true
          · simp only [hmanaged, if_true]
            refine triple_bind _ _ _ _ _ (triple_start instances n hn) (fun _ _ => ?_)
            refine triple_step _ _ _ _ (fun _ _ => triple_step _ _ _ _ (fun _ _ => ?_))
            exact triple_pure _ _ _ trivial
          · simp only [hmanaged, Bool.false_eq_true, if_false]
            exact triple_raise _ _ _
  | gcpCompute =>
      cases n.vm.id with
      | none => exact triple_raise _ _ _
      | some id =>
          exact triple_bind _ _ _ _ _ (triple_start instances n hn)
            (fun _ _ => triple_raise _ _ _)
  | _ => exact triple_raise _ _ _

theorem stopInstancesOf_power (σ : Schedule Event) :
    Triple (PowerEvent instances) (fun _ => True) (stopInstancesOf self σ instances) := by
  have hpool : Triple (PowerEvent instances) (fun _ => True)
      (stopInstances self σ instances) := by
    rw [stopInstances_eq]
    refine triple_bind _ _ _ _ _ (triple_parallel _ σ (fun _ => True) _ (fun t ht => ?_))
      (fun _ _ => triple_pure _ _ _ trivial)
    rcases List.mem_map.mp ht with ⟨n, hn, rfl⟩
    exact stopInstance_power self instances n hn
  unfold stopInstancesOf
  cases self.cloudType with
  | colo | skySql => exact triple_pure _ _ _ trivial
  | skySql2 =>
      cases instances with
      | nil => exact triple_raise _ _ _
      | cons n rest => exact triple_stop self _ n List.mem_cons_self
  | _ => exact hpool

theorem startInstancesOf_power (σ : Schedule Event) :
    Triple (PowerEvent instances) (fun _ => True) (startInstancesOf self σ instances) := by
  have hpool : Triple (PowerEvent instances) (fun _ => True)
      (startInstances self σ instances) := by
    rw [startInstances_eq]
    refine triple_mono _ _ _ _ _ (fun _ he => he) (fun _ _ => trivial)
      (triple_parallel _ σ (fun _ => True) _ (fun t ht => ?_))
    rcases List.mem_map.mp ht with ⟨n, hn, rfl⟩
    exact startInstance_power self instances n hn
  unfold startInstancesOf
  cases self.cloudType with
  | colo | skySql => exact triple_pure _ _ _ trivial
  | skySql2 =>
      cases instances with
      | nil => exact triple_raise _ _ _
      | cons n rest =>
          exact triple_bind _ _ _ _ _ (triple_start _ n List.mem_cons_self)
            (fun _ _ => triple_pure _ _ _ trivial)
  | _ => exact triple_bind _ _ _ _ _ hpool (fun _ _ => triple_pure _ _ _ trivial)

end Unwritten

end Xbench
