import Xbench.Commands.Accounting
import Xbench.Commands.Membership

/-!
# A Run from End to End

What a `run` that exits with status 0 has left in the clouds.

`run` provisions a cluster, runs the workload and tears the cluster down. On
AWS and GCP the teardown tells each member that is the cluster's to give back
to go, so the run is clean when the machines it made are members at that time.
A machine of a launch that fails is no member, but then the allocation fails
and the status is 1. What is left are machines that lose their place: an
environment that describes a component again launches its instances again, and
the members of their names are then the later ones.

## Main definitions

* `KeepsProvisioned`: Creating a machine leaves its flag.
* `Apart`: No two environments describe one component.

## Theorems

* `launchInstance_created`: What a launch made is what it returned.
* `allocateEnv_created`: So it is in an environment.
* `collected_makes`: Installing makes no machine.
* `allocated_members`: All machines that were made are members.
* `run_released`: A run with status 0 has given everything back.
-/

namespace Xbench

open Effect
open Text

namespace Main

/-- Creating a machine leaves the flag that it is to be given back. -/
def KeepsProvisioned (api : CloudApi) : Prop :=
  ∀ klass count vm v, (api.create klass count vm).outcome = .ok v → v.provisioned = vm.provisioned

/-- A machine that was made, as a node that is to be given back. -/
def Accountable (l : List (Option Node)) (y : String × Option String) : Prop :=
  ∃ n, some n ∈ l ∧ (n.vm.env, n.vm.id) = y ∧ n.vm.provisioned = true

section Launch

variable (self : AbstractCloud)

theorem boolField_ok (d : Params) (key : String) (b : Bool) (h : boolField d key = .ok b) :
    d.get? key = some (.bool b) := by
  unfold boolField at h
  cases hget : d.get? key with
  | none =>
      rw [hget] at h
      cases h
  | some v =>
      rw [hget] at h
      cases v with
      | bool b' => rw [Except.ok.inj h]
      | _ => cases h

theorem fromDict_provisioned (d : Params) (vm : VirtualMachine)
    (h : VirtualMachine.fromDict d = .ok vm) :
    d.get? "provisioned" = some (.bool vm.provisioned) := by
  unfold VirtualMachine.fromDict at h
  -- the eleven fields before it, and the nine after it
  iterate 11 rcases except_bind_eq_ok _ _ _ h with ⟨_, _, h⟩
  rcases except_bind_eq_ok _ _ _ h with ⟨provisioned, hprovisioned, h⟩
  iterate 9 rcases except_bind_eq_ok _ _ _ h with ⟨_, _, h⟩
  rw [← Except.ok.inj h]
  exact boolField_ok d "provisioned" provisioned hprovisioned

/-- The cloud's last word does not concern the flag. -/
theorem computeVm_provisioned (klass : ComputeKlass) (params : Params) (vm : VirtualMachine)
    (hparams : isProvisioned params = true) (h : computeVm self klass params = .ok vm) :
    vm.provisioned = true := by
  have hget : params.get? "provisioned" = some (.bool vm.provisioned) := by
    unfold computeVm at h
    cases klass with
    | awsEc2 =>
        have hvm := fromDict_provisioned _ vm h
        rw [Dict.get?_set_other _ _ _ _ (by decide), Dict.get?_set_other _ _ _ _ (by decide),
          Dict.get?_set_other _ _ _ _ (by decide)] at hvm
        exact hvm
    | _ =>
        have hvm := fromDict_provisioned _ vm h
        rw [Dict.get?_set_other _ _ _ _ (by decide), Dict.get?_set_other _ _ _ _ (by decide)]
          at hvm
        exact hvm
  have hread : params.read "provisioned" = .bool vm.provisioned := by
    rw [Dict.read, hget]
    rfl
  rw [isProvisioned, hread] at hparams
  exact hparams

/-- An event of a launch in every environment is no machine. -/
theorem uncreated_of_launchEvent (e : Event) (h : ∀ env, LaunchEvent env e) :
    e.created? = none := by
  cases e with
  | createInstance env id =>
      have hlonger : env.length = (env ++ "x").length := congrArg String.length (h (env ++ "x"))
      rw [String.length_append] at hlonger
      exact absurd hlonger (Nat.ne_of_lt (Nat.lt_add_of_pos_right (by decide)))
  | _ => rfl

theorem created_none (trace : List Event) (h : ∀ e ∈ trace, e.created? = none) :
    createdInstances trace = [] :=
  List.filterMap_eq_nil_iff.mpr h

/-- Giving storage to a machine makes no machine, and leaves this one. -/
theorem launchVolumes_created (vm v : VirtualMachine) (attachTo : Option VirtualMachine)
    (h : (processStorage (launchStorage self attachTo) vm).result = .ok v) :
    createdInstances (processStorage (launchStorage self attachTo) vm).trace = []
      ∧ v.env = vm.env ∧ v.id = vm.id ∧ v.provisioned = vm.provisioned := by
  refine ⟨created_none _ (fun e he => uncreated_of_launchEvent e (fun env =>
    (processStorage_spec (LaunchEvent env) _ (launchStorage_spec self env attachTo) vm).trace
      e he)), ?_⟩
  unfold processStorage at h
  rcases bind_result_ok _ _ _ h with ⟨storage, _, h⟩
  rcases bind_result_ok _ _ _ h with ⟨storageList, _, h⟩
  rw [← Except.ok.inj h]
  exact ⟨rfl, rfl, rfl⟩

theorem catching_some {α : Type} (c : ExnClass) (x : Command (Option α)) (a : α)
    (h : (catching c x none).result = .ok (some a)) :
    x.result = .ok (some a) ∧ (catching c x none).trace = x.trace := by
  unfold catching at h ⊢
  cases hx : x.result with
  | ok b =>
      rw [attempt_ok x _ b hx] at h ⊢
      exact ⟨hx.symm.trans h, rfl⟩
  | error e =>
      rw [attempt_error x _ e hx] at h
      dsimp only at h
      split at h <;> cases h

/-- What a launch made is what it returned. -/
theorem launchInstance_created (hkeeps : KeepsProvisioned self.api) (params : Params) (n : Node)
    (hparams : isProvisioned params = true)
    (h : (launchInstance self params).result = .ok (some n)) :
    (∀ y ∈ createdInstances (launchInstance self params).trace, (n.vm.env, n.vm.id) = y)
      ∧ n.vm.provisioned = true := by
  unfold launchInstance at h ⊢
  rcases catching_some _ _ n h with ⟨h, htrace⟩
  rw [htrace]
  rcases bind_result_ok _ _ _ h with ⟨klass, hklass, h⟩
  rcases bind_result_ok _ _ _ h with ⟨vm, hvm, h⟩
  rcases bind_result_ok _ _ _ h with ⟨created, hcreated, h⟩
  rcases bind_result_ok _ _ _ h with ⟨stored, hstored, h⟩
  rcases bind_result_ok _ _ _ h with ⟨node, hnode, h⟩
  have hnodeVm := ofVm_vm _ _ _ hnode
  rcases launchVolumes_created self _ stored _ hstored with ⟨hnone, henv, hid, hprovisioned⟩
  -- the request made at most one machine, the one it returned
  have hmade : (self.api.create klass 1 vm).outcome = .ok created
      ∧ ∀ y ∈ createdInstances (createInstance self klass 1 vm).trace,
        (created.env, created.id) = y := by
    unfold createInstance at hcreated ⊢
    cases hid : (self.api.create klass 1 vm).made with
    | none =>
        rw [hid] at hcreated
        exact ⟨hcreated, fun y hy => absurd hy List.not_mem_nil⟩
    | some id =>
        rw [hid] at hcreated
        dsimp only at hcreated ⊢
        rcases bind_result_ok _ _ _ hcreated with ⟨_, _, hout⟩
        rcases (self.api.create klass 1 vm).returned created hout with ⟨hmade, _, henv⟩
        rw [hid] at hmade
        refine ⟨hout, fun y hy => ?_⟩
        rw [tell_bind] at hy
        rw [List.mem_singleton.mp hy, henv, ← Option.some.inj hmade]
  rw [← Option.some.inj (Except.ok.inj h), hnodeVm, henv, hid, hprovisioned]
  refine ⟨fun y hy => ?_, ?_⟩
  · rw [bind_ok _ _ klass hklass, bind_ok _ _ vm hvm, bind_ok _ _ created hcreated,
      bind_ok _ _ stored hstored, bind_ok _ _ node hnode] at hy
    simp only [trace_ofExcept, List.nil_append, trace_pure, List.append_nil, created_append,
      hnone] at hy
    exact hmade.2 y hy
  · change created.provisioned = true
    rw [hkeeps klass 1 vm created hmade.1]
    exact computeVm_provisioned self klass params vm hparams hvm

theorem awsLaunchInstance_created (hkeeps : KeepsProvisioned self.api) (params : Params)
    (n : Node) (hparams : isProvisioned params = true)
    (h : (awsLaunchInstance self params).result = .ok (some n)) :
    (∀ y ∈ createdInstances (awsLaunchInstance self params).trace, (n.vm.env, n.vm.id) = y)
      ∧ n.vm.provisioned = true := by
  unfold awsLaunchInstance at h ⊢
  rcases catching_some _ _ n h with ⟨h, htrace⟩
  rw [htrace]
  rcases bind_result_ok _ _ _ h with ⟨u, hdescribed, h⟩
  rw [bind_ok _ _ u hdescribed, trace_ofExcept, List.nil_append]
  exact launchInstance_created self hkeeps params n hparams h

/-- A pool that returns no missing node returns all machines it made. -/
theorem launchInstances_created (σ : Schedule Event) (launch : Params → Command (Option Node))
    (requests : List Params) (l : List (Option Node))
    (hlaunch : ∀ r ∈ requests, ∀ n, (launch r).result = .ok (some n) →
      (∀ y ∈ createdInstances (launch r).trace, (n.vm.env, n.vm.id) = y)
        ∧ n.vm.provisioned = true)
    (h : (launchInstances σ launch requests).result = .ok l) (hnone : none ∉ l) :
    ∀ y ∈ createdInstances (launchInstances σ launch requests).trace, Accountable l y := by
  unfold launchInstances at h ⊢
  rw [runParallelReturning_dicts] at h ⊢
  intro y hy
  rcases List.mem_filterMap.mp hy with ⟨e, he, hey⟩
  rcases (mem_parallel_trace σ _ e).mp he with ⟨t, ht, het⟩
  rcases List.mem_map.mp ht with ⟨r, hr, rfl⟩
  -- the task that did it has returned, and not nothing
  have hmem : (launch r).result ∈ l.map Except.ok :=
    (parallel_ok σ _ l h).mem_iff.mp (List.mem_map.mpr ⟨_, ht, rfl⟩)
  rcases List.mem_map.mp hmem with ⟨o, ho, hres⟩
  cases o with
  | none => exact absurd ho hnone
  | some n =>
      rcases hlaunch r hr n hres.symm with ⟨hcreated, hprovisioned⟩
      exact ⟨n, ho, hcreated y (List.mem_filterMap.mpr ⟨e, het, hey⟩), hprovisioned⟩

/-- The same of launching on AWS and on GCP. -/
theorem launchSome_created (hcloud : perMachine self.cloudType = true)
    (hkeeps : KeepsProvisioned self.api) (σ : Schedule Event) (requests : List Params)
    (hrequests : ∀ r ∈ requests, isProvisioned r = true) (l : List (Option Node))
    (h : (launchSome self σ requests).result = .ok l) (hnone : none ∉ l) :
    ∀ y ∈ createdInstances (launchSome self σ requests).trace, Accountable l y := by
  unfold launchSome at h ⊢
  by_cases hempty : requests.isEmpty = true
  · rw [if_pos hempty]
    exact fun y hy => absurd hy List.not_mem_nil
  · rw [if_neg hempty] at h ⊢
    unfold launchInstancesOf at h ⊢
    cases htype : self.cloudType with
    | aws =>
        rw [htype] at h
        exact launchInstances_created σ _ requests l
          (fun r hr n => awsLaunchInstance_created self hkeeps r n (hrequests r hr)) h hnone
    | gcp =>
        rw [htype] at h
        exact launchInstances_created σ _ requests l
          (fun r hr n => launchInstance_created self hkeeps r n (hrequests r hr)) h hnone
    | _ =>
        rw [htype] at hcloud
        cases hcloud

end Launch

section Allocate

variable (self : Provisioning) (out : Outside)

/-- What an environment made is what it returned. -/
theorem allocateEnv_created (env : EnvironmentComponents) (provisionedClouds : List String)
    (topoMap : Dict String String) (launched : Launched)
    (hcloud : ∃ t, CloudType.fromString env.env.cloud = .ok t ∧ perMachine t = true)
    (hkeeps : ∀ t, KeepsProvisioned (out.clouds env.env t))
    (h : (self.allocateEnv out env provisionedClouds topoMap).result = .ok launched)
    (hnone : none ∉ launched.nodes) :
    ∀ y ∈ createdInstances (self.allocateEnv out env provisionedClouds topoMap).trace,
      Accountable launched.nodes y := by
  unfold Provisioning.allocateEnv at h ⊢
  rcases bind_result_ok _ _ _ h with ⟨ec, hec, h⟩
  rcases bind_result_ok _ _ _ h with ⟨cloud, hmade, h⟩
  rcases bind_result_ok _ _ _ h with ⟨u, hcheck, h⟩
  rcases bind_result_ok _ _ _ h with ⟨storage, hstorage, h⟩
  rcases bind_result_ok _ _ _ h with ⟨nodes, hnodes, h⟩
  rcases bind_result_ok _ _ _ h with ⟨fakes, hfakes, h⟩
  have hlaunched : (⟨storage, nodes ++ fakes⟩ : Launched) = launched := Except.ok.inj h
  rw [← hlaunched] at hnone ⊢
  dsimp only at hnone ⊢
  rw [List.mem_append, not_or] at hnone
  -- the cloud is of the type that the environment names, and the other is ephemeral
  rcases hcloud with ⟨t, ht, hper⟩
  rcases except_bind_eq_ok _ _ _ hmade with ⟨t', ht', hmade'⟩
  rw [Except.ok.inj (ht'.symm.trans ht)] at hmade'
  have hcloudType : cloud.cloudType = t := (createCloud_ok _ _ _ _ cloud hmade').1
  have hapi : cloud.api = out.clouds env.env t := by
    unfold createCloud at hmade'
    rcases except_bind_eq_ok _ _ _ hmade' with ⟨cli, _, hmade'⟩
    rcases except_bind_eq_ok _ _ _ hmade' with ⟨_, _, hmade'⟩
    rw [← Except.ok.inj hmade']
  have hephemeral : ec.cloudType = .ephemeral := (createCloud_ok _ _ _ _ ec hec).1
  have hfaked : (launchSome ec (out.schedule env.env) (instancesToFake env topoMap)).trace = [] := by
    unfold launchSome
    split
    · rfl
    · unfold launchInstancesOf
      rw [hephemeral]
      rfl
  have hstored : createdInstances (launchStorageInstances cloud env.sharedStorage).trace = [] :=
    created_none _ (fun e he => uncreated_of_launchEvent e (fun name =>
      (processStorageInstances_spec (LaunchEvent name) _
        (launchStorage_spec cloud name none) env.sharedStorage).trace e he))
  have hcreated := launchSome_created cloud (hcloudType ▸ hper) (hapi ▸ hkeeps t)
    (out.schedule env.env) (instancesToLaunch env topoMap)
    (fun r hr => (List.mem_filter.mp hr).2) nodes hnodes hnone.1
  rw [bind_ok _ _ ec hec, bind_ok _ _ cloud hmade, bind_ok _ _ u hcheck,
    bind_ok _ _ storage hstorage, bind_ok _ _ nodes hnodes, bind_ok _ _ fakes hfakes]
  simp only [trace_ofExcept, List.nil_append, trace_pure, List.append_nil, created_append, hfaked,
    hstored]
  intro y hy
  rcases hcreated y hy with ⟨n, hn, hrest⟩
  exact ⟨n, List.mem_append_left _ hn, hrest⟩

/-- No two environments describe one component. -/
def Apart (envs : List EnvironmentComponents) : Prop :=
  envs.Pairwise (fun a b => ∀ component, describes a component = true →
    describes b component = false)

/-- After an allocation that is complete every machine that was made is a
    member, under its own name, in a listed environment. -/
theorem allocated_members (topo : Value) (dir : ClustersDir) (c c' : Cluster)
    (hproper : Proper self topo) (hconf : IsConfigured self topo c) (hshows : Shows dir c)
    (hclouds : ∀ env ∈ self.envs, ∃ t, CloudType.fromString env.env.cloud = .ok t
      ∧ perMachine t = true)
    (hkeeps : ∀ env t, KeepsProvisioned (out.clouds env t)) (hapart : Apart self.envs)
    (h : (self.allocateEnvs out self.envs [] c).result = .ok c') :
    ∀ y ∈ createdInstances (self.allocateEnvs out self.envs [] c).trace,
      ∃ n, ∃ env ∈ c'.envs, ∃ t, c'.members.get? n.vm.name = some n ∧ (n.vm.env, n.vm.id) = y
        ∧ n.vm.provisioned = true ∧ env.name = n.vm.env
        ∧ CloudType.fromString env.cloud = .ok t ∧ perMachine t = true := by
  have hreach : WithinReach self.envs c.topoMap := by
    intro env henv t ht hsingle
    rcases hclouds env henv with ⟨t', ht', hper⟩
    rw [Except.ok.inj (ht.symm.trans ht')] at hsingle
    cases t' with
    | aws => cases hsingle
    | gcp => cases hsingle
    | _ => cases hper
  have hloop := allocateEnvs_accounts self out self.envs [] c dir hshows
  have haccounts := hloop.returns c' h
  have hcomplete := allocateEnvs_complete self out topo dir c c' hproper hconf hshows hreach h
  have hperm := returned_perm self out self.envs [] c c' h hreach
  have hstands := standsFor_of_configured self topo c hproper hconf
  rcases attempts_ok self out self.envs [] c c' h with ⟨henvs, hok⟩
  intro y hy
  rcases (hloop.created y).mp hy with ⟨a, ha, hya⟩
  rcases hok a ha with ⟨launched, hres, hnone⟩
  rcases mem_attempts self out c.topoMap self.envs [] a ha with ⟨henv, seenClouds, heq⟩
  rcases hclouds a.1 henv with ⟨t, ht, hper⟩
  have hmine : ∃ n ∈ returned a.2, (n.vm.env, n.vm.id) = y ∧ n.vm.provisioned = true
      ∧ n.vm.env = a.1.env.name := by
    rw [heq] at hya hres
    rcases allocateEnv_created self out a.1 seenClouds c.topoMap launched ⟨t, ht, hper⟩
      (hkeeps a.1.env) hres hnone y hya with ⟨n, hn, hny, hprovisioned⟩
    refine ⟨n, ?_, hny, hprovisioned, ?_⟩
    · rw [heq, returned, hres]
      exact List.mem_filterMap.mpr ⟨some n, hn, rfl⟩
    · exact ((allocateEnv_spec self out a.1 seenClouds c.topoMap).result launched hres).nodes n hn
  rcases hmine with ⟨n, hn, hny, hprovisioned, hnenv⟩
  refine ⟨n, a.1.env, ?_, t, ?_, hny, hprovisioned, hnenv.symm, ht, hper⟩
  · rw [haccounts.envs]
    refine List.mem_append_right _ (List.mem_map.mpr ⟨a, List.mem_filter.mpr ⟨ha, ?_⟩, rfl⟩)
    rw [cameBack, hres]
  · -- no later environment describes the component, so none returned the name
    rcases List.mem_iff_append.mp ha with ⟨pre, post, hsplit⟩
    refine hcomplete.value pre a post hsplit n hn (fun b hb hmem => ?_)
    have hname := (hperm a ha).mem_iff.mp (List.mem_map.mpr ⟨n, hn, rfl⟩)
    rcases (mem_describedNames a.1 c.topoMap _).mp hname with ⟨component, joined, hget, hdesc, hs⟩
    rcases (mem_describedNames b.1 c.topoMap _).mp hmem with
      ⟨component', joined', hget', hdesc', hs'⟩
    rcases (hstands component joined hget).2 with ⟨count, hcount⟩
    rcases (hstands component' joined' hget').2 with ⟨count', hcount'⟩
    rw [hcount.names] at hs
    rw [hcount'.names] at hs'
    rw [← names_disjoint component component' _ _ _ hs hs'] at hdesc'
    have hpair : ∀ b ∈ post, ∀ component, describes a.1 component = true →
        describes b.1 component = false := by
      have hlist := hapart
      rw [Apart, ← henvs, hsplit, List.pairwise_map] at hlist
      exact (List.pairwise_cons.mp (List.pairwise_append.mp hlist).2.1).1
    rw [hpair b hb component hdesc] at hdesc'
    cases hdesc'

end Allocate

section Install

variable (self : Installer) (c : Cluster)

/-- Installing makes no machine, up to its target. -/
theorem collected_makes (σ : Schedule Event) :
    Triple MakesNothing (fun _ => True) (self.collected c σ) := by
  have hwire : ∀ name res, Triple MakesNothing (fun _ => True) (self.wire c name res) := by
    intro name res
    refine triple_step _ _ _ _ (fun myNode _ => triple_step _ _ _ _ (fun groups _ => ?_))
    generalize groups.values = gs
    induction gs generalizing res with
    | nil => exact triple_pure _ _ _ trivial
    | cons g gs ih =>
        rw [List.foldlM_cons]
        refine triple_bind _ (fun _ => True) _ _ _ ?_ (fun bt _ => ih bt)
        unfold Installer.wireGroup
        cases myNode.1 with
        | none => exact triple_raise _ _ _
        | some parent =>
            dsimp only
            split
            · exact triple_tell_bind _ _ _ _ ⟨rfl, rfl⟩
                (triple_ofExcept _ _ _ (fun _ _ => trivial))
            · exact triple_pure _ _ _ trivial
  have hloop : ∀ bt l, Triple MakesNothing (fun _ => True) (self.collectTarget c bt l) := by
    intro bt l
    induction l generalizing bt with
    | nil => exact triple_pure _ _ _ trivial
    | cons x l ih =>
        rcases x with ⟨name, _ | res⟩
        · exact ih bt
        · rw [Installer.collectTarget]
          exact triple_bind _ (fun _ => True) _ _ _ (hwire name res) (fun t _ => ih (some t))
  refine triple_bind _ (fun _ => True) _ _ _ ?_ (fun _ _ => triple_step _ _ _ _ (fun groups _ =>
    triple_bind _ (fun _ => True) _ _ _ ?_ (fun l _ => hloop none l)))
  · refine triple_mono _ _ _ _ _ ?_ (fun _ _ => trivial) (self.configureEnvs_trace c self.envs)
    rintro e ⟨klass, nodes, rfl⟩
    exact ⟨rfl, rfl⟩
  · refine triple_mono _ _ _ _ _ (fun _ he => he) (fun _ _ => trivial)
      (triple_parallel _ _ (fun _ => True) _ (fun t ht => ?_))
    rcases List.mem_map.mp ht with ⟨g, _, rfl⟩
    exact triple_tell_bind _ _ _ _ ⟨rfl, rfl⟩
      (triple_step _ _ _ _ (fun r _ => triple_pure _ _ _ trivial))

/-- Nor does it with saving. -/
theorem install_created (opens : Cluster → Except Exn Unit) (dir : ClustersDir)
    (σ : Schedule Event) : createdInstances (self.install opens dir σ).trace = [] := by
  refine created_none _ ?_
  have htrace : (self.install opens dir σ).trace
      = (ofExcept (loadCluster opens dir self.clusterName)
        >>= fun c => self.installCluster c σ).trace := attempt_trace _ _ (fun _ => rfl)
  rw [htrace]
  refine (triple_step (fun e : Event => e.created? = none) (fun _ => True) _ _ (fun c _ =>
    triple_bind _ (fun _ => True) _ _ _ (triple_mono _ _ _ _ _ (fun _ he => he.2)
      (fun _ h => h) (collected_makes self c σ)) (fun _ _ => triple_tell _ _ rfl))).trace

end Install

section Run

/-- Commands in a row that come to their end. -/
theorem inTurn_ok (x : ClustersDir → Command Unit) (rest : List (ClustersDir → Command Unit))
    (dir : ClustersDir) (h : (inTurn (x :: rest) dir).result = .ok ()) :
    (x dir).result = .ok () ∧ (inTurn rest (dir.after (x dir).trace)).result = .ok ()
      ∧ (inTurn (x :: rest) dir).trace
        = (x dir).trace ++ (inTurn rest (dir.after (x dir).trace)).trace := by
  rw [inTurn_cons] at h ⊢
  rcases bind_result_ok _ _ _ h with ⟨u, hx, hrest⟩
  rw [bind_ok _ _ u hx]
  exact ⟨hx, hrest, rfl⟩

/-- A step without events before the others. -/
theorem inTurn_silent (x : ClustersDir → Command Unit) (rest : List (ClustersDir → Command Unit))
    (dir : ClustersDir) (hnone : (x dir).trace = []) (h : (inTurn (x :: rest) dir).result = .ok ()) :
    (inTurn rest dir).result = .ok () ∧ (inTurn (x :: rest) dir).trace = (inTurn rest dir).trace := by
  rcases inTurn_ok x rest dir h with ⟨_, hrest, htrace⟩
  rw [hnone] at hrest htrace
  exact ⟨hrest, htrace⟩

variable (self : Provisioner)

theorem make_silent (dir : ClustersDir) : (self.make dir).trace = [] := by
  unfold Provisioner.make
  rw [asXbench_trace]
  cases loadCluster self.opens dir self.clusterName with
  | error e => rfl
  | ok c => exact discard_trace _

theorem selfTest_silent (dir : ClustersDir) : (self.selfTest dir).trace = [] := by
  unfold Provisioner.selfTest
  rw [attempt_trace _ _ (fun e => by split <;> rfl)]
  cases loadCluster self.opens dir self.clusterName with
  | error e => rfl
  | ok c => rfl

/-- A configuration that comes to its end saves a cluster without members. -/
theorem configure_saved (dir : ClustersDir) (h : (self.configure dir).result = .ok ()) :
    ∃ topo c, self.loadTopo = .ok topo ∧ IsConfigured self.provisioning topo c
      ∧ (self.configure dir).trace = [.saveCluster c] ∧ c.asFile = c := by
  unfold Provisioner.configure at h ⊢
  rcases bind_result_ok _ _ _ h with ⟨c, hc, _⟩
  rw [discard_trace]
  cases htopo : self.loadTopo with
  | error e =>
      unfold Provisioning.configure at hc
      rcases bind_result_ok _ _ _ hc with ⟨_, _, hc⟩
      rw [htopo] at hc
      cases hc
  | ok topo =>
      rw [htopo] at hc
      rcases configure_ok self.provisioning self.out topo c hc with ⟨hconfigured, htrace⟩
      have hconf := configured_spec self.provisioning topo c hconfigured
      exact ⟨topo, c, rfl, hconf, htrace, asFile_of_empty c hconf.members
        (configured_bt self.provisioning topo c hconfigured)⟩

/-- An allocation for a configured cluster that comes to its end records the
    machines it made. -/
theorem allocate_recorded (dir : ClustersDir) (topo : Value) (c : Cluster)
    (hproper : Proper self.provisioning topo) (hconf : IsConfigured self.provisioning topo c)
    (hfile : dir.file self.clusterName = some c)
    (hclouds : ∀ env ∈ self.envs, ∃ t, CloudType.fromString env.env.cloud = .ok t
      ∧ perMachine t = true)
    (hkeeps : ∀ env t, KeepsProvisioned (self.out.clouds env t)) (hapart : Apart self.envs)
    (h : (self.allocate dir).result = .ok ()) :
    ∀ y ∈ createdInstances (self.allocate dir).trace,
      ∃ k machine env t, Recorded (dir.after (self.allocate dir).trace) self.clusterName k machine
        env ∧ (machine.1, machine.2.2) = y ∧ env.name = machine.1
        ∧ CloudType.fromString env.cloud = .ok t ∧ perMachine t = true := by
  unfold Provisioner.allocate at h ⊢
  rcases bind_result_ok _ _ _ h with ⟨c', hc', _⟩
  rw [discard_trace]
  unfold Provisioning.allocate at hc' ⊢
  rcases bind_result_ok _ _ _ hc' with ⟨loaded, hload, hc'⟩
  have hloaded : loaded = c :=
    Option.some.inj ((loadCluster_ok self.opens dir _ loaded hload).symm.trans hfile)
  rw [hloaded] at hc' hload
  rw [bind_ok _ _ c hload, trace_ofExcept, List.nil_append]
  dsimp only
  rw [asXbench_trace]
  have hok := asXbench_ok _ c' hc'
  have hshows : Shows dir c := Or.inl (by
    rw [show c.clusterName = self.clusterName from hconf.clusterName]
    exact hfile)
  have hloop := allocateEnvs_accounts self.provisioning self.out self.envs [] c dir hshows
  have haccounts := hloop.returns c' hok
  rcases hloop.shown with ⟨shown, hshown, haccounts'⟩
  have hmembers := allocated_members self.provisioning self.out topo dir c c' hproper hconf hshows
    hclouds hkeeps hapart hok
  intro y hy
  rcases hmembers y hy with ⟨n, env, henv, t, hget, hny, hprovisioned, hname, ht, hper⟩
  refine ⟨n.vm.name, n.machine, env, t, ?_, hny, hname, ht, hper⟩
  -- the file shows a cluster with the members and the environments of the result
  rw [haccounts.members, ← haccounts'.members] at hget
  rw [haccounts.envs, ← haccounts'.envs] at henv
  have hcluster : shown.clusterName = self.clusterName :=
    haccounts'.clusterName.trans hconf.clusterName
  rw [Shows, hcluster] at hshown
  rcases hshown with hsaved | hsaved
  · exact ⟨shown, n, hsaved, hget, rfl, hprovisioned, henv⟩
  · refine ⟨shown.asFile, ⟨n.vm.asBase⟩, hsaved, ?_, rfl, hprovisioned, henv⟩
    rw [get?_asFile, hget]
    rfl

/-- All steps of provisioning, when they come to their end: every machine that
    was made is recorded. -/
theorem provisionAll_records (dir : ClustersDir) (hgood : Good self.clusterName dir)
    (hproper : ∀ topo, self.loadTopo = .ok topo → Proper self.provisioning topo)
    (hclouds : ∀ env ∈ self.envs, ∃ t, CloudType.fromString env.env.cloud = .ok t
      ∧ perMachine t = true)
    (hkeeps : ∀ env t, KeepsProvisioned (self.out.clouds env t)) (hapart : Apart self.envs)
    (h : (self.step .all dir).result = .ok ()) :
    ∀ y ∈ createdInstances (self.step .all dir).trace,
      ∃ k machine env t, Recorded (dir.after (self.step .all dir).trace) self.clusterName k machine
        env ∧ (machine.1, machine.2.2) = y ∧ env.name = machine.1
        ∧ CloudType.fromString env.cloud = .ok t ∧ perMachine t = true := by
  rcases inTurn_ok _ _ dir h with ⟨hconfigure, h, htrace⟩
  have hgood₁ := (configure_preserves self dir hgood).2
  rcases configure_saved self dir hconfigure with ⟨topo, c, htopo, hconf, hsaved, hempty⟩
  rw [hsaved] at h htrace hgood₁
  have hfile : (dir.after [.saveCluster c]).file self.clusterName = some c := by
    rw [← show c.clusterName = self.clusterName from hconf.clusterName]
    exact (if_pos rfl).trans (congrArg some hempty)
  rcases inTurn_ok _ _ _ h with ⟨hallocate, h, htrace₁⟩
  have hrecorded := allocate_recorded self _ topo c (hproper topo htopo) hconf hfile hclouds hkeeps
    hapart hallocate
  have hgood₂ := (preserves_keeping _ _ _ (allocate_keeping self) _ hgood₁).2
  -- the self test and `make` write nothing, and `install` keeps what is recorded
  rcases inTurn_silent _ _ _ (selfTest_silent self _) h with ⟨h, htrace₂⟩
  rcases inTurn_silent _ _ _ (make_silent self _) h with ⟨h, htrace₃⟩
  rcases inTurn_ok _ _ _ h with ⟨_, _, htrace₄⟩
  have hwhole : (self.step .all dir).trace = [.saveCluster c]
      ++ ((self.allocate (dir.after [.saveCluster c])).trace ++ (self.install
        ((dir.after [.saveCluster c]).after (self.allocate (dir.after [.saveCluster c])).trace)
          ).trace) := by
    refine htrace.trans ?_
    rw [htrace₁, htrace₂, htrace₃, htrace₄]
    exact congrArg (fun l => [Event.saveCluster c] ++ (_ ++ l)) (List.append_nil _)
  rw [hwhole, ClustersDir.after_append, ClustersDir.after_append]
  intro y hy
  rw [created_append, created_append, List.mem_append, List.mem_append] at hy
  rcases hy with hy | hy | hy
  · exact absurd hy List.not_mem_nil
  · rcases hrecorded y hy with ⟨k, machine, env, t, hrec, hrest⟩
    refine ⟨k, machine, env, t, ?_, hrest⟩
    exact recorded_follows _ k machine env _ _ (step_keeping self .install rfl) _ hgood₂ hrec
      (fun _ _ hrefreshed => by cases hrefreshed.1)
  · rw [show self.install _ = self.toInstaller.install _ _ _ from rfl, install_created] at hy
    exact absurd hy List.not_mem_nil

/-- A teardown by the file makes no machine. -/
theorem deprovisionClean_created (d : DeProvisioning) (c : Cluster) :
    createdInstances (d.clean c).trace = [] := by
  have hmakes := (deprovisionEnvs_makes d c c.envs).trace
  unfold DeProvisioning.clean
  refine created_none _ (triple_tell_bind (fun e : Event => e.created? = none) (fun _ => True)
    _ _ rfl (triple_step _ _ _ _ (fun _ _ => triple_bind _ (fun _ => True) _ _ _
      ⟨fun e he => (hmakes e he).2, fun _ _ => trivial⟩ (fun _ _ => triple_tell _ _ rfl)))).trace

/-- A `provision` of all steps that comes to its end, without force: there was
    no file, and the steps came to their end. -/
theorem provision_fresh (dir : ClustersDir)
    (h : (provision self .all false dir).result = .ok ()) :
    dir.file self.clusterName = none ∧ (self.step .all dir).result = .ok ()
      ∧ (provision self .all false dir).trace = (self.step .all dir).trace := by
  unfold provision at h ⊢
  split at h
  · cases h
  · rename_i hname
    rw [if_neg hname]
    rcases bind_result_ok _ _ _ h with ⟨u, hbuilt, h⟩
    rw [bind_ok _ _ u hbuilt, trace_ofExcept, List.nil_append]
    cases hfile : dir.file self.clusterName with
    | some f =>
        rw [hfile] at h
        cases h
    | none =>
        rw [hfile] at h
        exact ⟨rfl, h, rfl⟩

/-- Where there is no file, the steps are taken. -/
theorem provision_steps (step : ProvisionStep) (force : Bool) (dir : ClustersDir)
    (hname : validateNameRfc1035 self.clusterName = true) (hbuilt : self.built = .ok ())
    (hfile : dir.file self.clusterName = none) :
    provision self step force dir = self.step step dir := by
  unfold provision
  rw [hname, hbuilt, hfile]
  rfl

/-- A `deprovision` that comes to its end, without force: the cluster of the
    file is torn down. -/
theorem deprovision_ended (d : DeProvisioning) (args : DeprovisionArgs)
    (opens : Cluster → Except Exn Unit) (dir : ClustersDir) (hforce : args.force = false)
    (h : (deprovision d args opens dir).result = .ok ()) :
    ∃ c, dir.file d.clusterName = some c ∧ (d.clean c).result = .ok ()
      ∧ (deprovision d args opens dir).trace = (d.clean c).trace := by
  have hclean : deprovision d args opens dir
      = (ofExcept (loadCluster opens dir d.clusterName) >>= d.clean) := by
    unfold deprovision
    rw [hforce]
  rw [hclean] at h ⊢
  rcases bind_result_ok _ _ _ h with ⟨c, hload, h⟩
  rw [bind_ok _ _ c hload]
  exact ⟨c, loadCluster_ok opens dir _ c hload, h, rfl⟩

/-- A `run` with status 0 leaves no file of the cluster, and has told every
    machine that it made to go. -/
theorem run_released (self : EndToEnd) (dir : ClustersDir) (hforce : self.args.force = false)
    (hdry : self.deprovisioning.dryRun = false)
    (hproper : ∀ topo, self.provisioner.loadTopo = .ok topo →
      Proper self.provisioner.provisioning topo)
    (hclouds : ∀ env ∈ self.provisioner.envs, ∃ t, CloudType.fromString env.env.cloud = .ok t
      ∧ perMachine t = true)
    (hkeeps : ∀ env t, KeepsProvisioned (self.provisioner.out.clouds env t))
    (hapart : Apart self.provisioner.envs)
    (hstatus : (Invocation.run self).status dir = 0) :
    (invoke ⟨dir, []⟩ (.run self)).dir.file self.provisioner.clusterName = none
      ∧ ∀ y ∈ createdInstances (invoke ⟨dir, []⟩ (.run self)).log,
        ∃ vm, .destroyInstance vm ∈ (invoke ⟨dir, []⟩ (.run self)).log ∧ (vm.env, vm.id) = y := by
  have hdone : (self.run dir).result = .ok () := by
    cases hres : (self.run dir).result with
    | ok u => rfl
    | error e =>
        rw [show (Invocation.run self).status dir = 1 by
          rw [Invocation.status, show ((Invocation.run self).command dir).result = .error e from
            hres]] at hstatus
        cases hstatus
  change (dir.after (self.run dir).trace).file self.provisioner.clusterName = none
    ∧ ∀ y ∈ createdInstances ([] ++ (self.run dir).trace),
      ∃ vm, .destroyInstance vm ∈ [] ++ (self.run dir).trace ∧ (vm.env, vm.id) = y
  rw [List.nil_append]
  -- the four parts of the run, each from the files before it
  rcases inTurn_ok _ _ dir hdone with ⟨hprovision, hdone, htrace⟩
  change (self.run dir).trace = _ at htrace
  rw [hforce] at hprovision htrace hdone
  rcases provision_fresh self.provisioner dir hprovision with ⟨hfresh, hsteps, hsame⟩
  rw [hsame] at htrace hdone
  rcases inTurn_silent _ _ _ rfl hdone with ⟨hdone, htrace₁⟩
  rcases inTurn_ok _ _ _ hdone with ⟨hdeprovision, hreport, htrace₂⟩
  have htrace₃ := (inTurn_silent _ _ _ rfl hreport).2
  have hgood : Good self.provisioner.clusterName dir := by
    intro f hf
    rw [hfresh] at hf
    cases hf
  have hrecords := provisionAll_records self.provisioner dir hgood hproper hclouds hkeeps hapart
    hsteps
  rcases deprovision_ended _ _ _ _ hforce hdeprovision with ⟨c, hfile, hclean, hcleanTrace⟩
  have hwhole : (self.run dir).trace
      = (self.provisioner.step .all dir).trace ++ (self.deprovisioning.clean c).trace := by
    refine htrace.trans ?_
    rw [htrace₁, htrace₂, htrace₃, hcleanTrace]
    exact congrArg _ (List.append_nil _)
  have hgone := deprovisionClean_file self.deprovisioning c
    (dir.after (self.provisioner.step .all dir).trace) hclean
  rw [hwhole, ClustersDir.after_append]
  refine ⟨?_, fun y hy => ?_⟩
  · rw [← self.same]
    exact hgone
  · rw [created_append, deprovisionClean_created, List.append_nil] at hy
    rcases hrecords y hy with ⟨k, machine, env, t, hrecorded, hmachine, hname, ht, hper⟩
    rw [← self.same] at hrecorded
    rcases deprovision_records k machine env self.deprovisioning c _ hfile hdry t ht hper hrecorded
      hname with ⟨f, _, hf, _⟩ | ⟨vm, hvm, hvmMachine⟩
    · rw [hgone] at hf
      cases hf
    · refine ⟨vm, List.mem_append_right _ hvm, ?_⟩
      rw [← hmachine, ← hvmMachine]
      rfl

end Run

section Driver

/-- The run of one driver in AWS. -/
def driverRun : EndToEnd where
  provisioner := driverProvisioner
  workload := fun _ => .ok ()
  deprovisioning := driverTeardown
  args := ⟨false, none, none⟩
  reporting := .ok ()
  same := rfl

theorem inTurn_next (x : ClustersDir → Command Unit) (rest : List (ClustersDir → Command Unit))
    (dir : ClustersDir) (trace trace' : List Event) (hx : x dir = ⟨trace, .ok ()⟩)
    (hrest : inTurn rest (dir.after trace) = ⟨trace', .ok ()⟩) :
    inTurn (x :: rest) dir = ⟨trace ++ trace', .ok ()⟩ := by
  rw [inTurn_cons, hx, bind_ok _ _ () rfl, hrest]

/-- What installing the driver does. -/
def driverInstalling : List Event :=
  [.configureComponent ⟨"driver.Sysbench", false, false⟩ (.one Lifecycle.launchedDriver),
    .installComponent ⟨"driver.Sysbench", false, false⟩ (.one Lifecycle.launchedDriver),
    .saveCluster (Lifecycle.installedDriver .ready)]

theorem driverProvisioner_all : driverProvisioner.step .all emptyDir
    = ⟨[.saveCluster oneDriverCluster] ++ ([.createInstance "env_0" (some "i-1"),
      .saveCluster Lifecycle.allocatedDriver] ++ ([] ++ ([] ++ (driverInstalling ++ [])))),
      .ok ()⟩ := by
  refine inTurn_next _ _ emptyDir _ _ rfl (inTurn_next _ _ Lifecycle.onceConfigured _ _ rfl
    (inTurn_next _ _ Lifecycle.onceAllocated _ _ rfl (inTurn_next _ _ Lifecycle.onceAllocated _ _
      rfl (inTurn_next _ _ Lifecycle.onceAllocated _ _ rfl rfl))))

/-- What tearing it down does. -/
def driverTearingDown : List Event :=
  [.saveCluster (Lifecycle.installedDriver .ready).asFile,
    .destroyInstance Lifecycle.launchedDriver.vm, .removeClusterYaml "dev"]

theorem driverRun_status : (Invocation.run driverRun).status emptyDir = 0 := by
  have hprovision : provision driverProvisioner .all false emptyDir
      = driverProvisioner.step .all emptyDir :=
    provision_steps driverProvisioner .all false emptyDir (by decide) rfl rfl
  have hdeprovision : deprovision driverTeardown ⟨false, none, none⟩ (fun _ => .ok ())
      Lifecycle.onceInstalled = ⟨driverTearingDown, .ok ()⟩ := rfl
  have hrun : driverRun.run emptyDir = ⟨_, .ok ()⟩ :=
    inTurn_next _ _ emptyDir _ _ (hprovision.trans driverProvisioner_all)
      (inTurn_next _ _ Lifecycle.onceInstalled [] _ rfl
        (inTurn_next _ _ Lifecycle.onceInstalled _ _ hdeprovision
          (inTurn_next _ _ _ [] _ rfl rfl)))
  rw [Invocation.status, show (Invocation.run driverRun).command emptyDir = _ from hrun]

theorem driverRun_keeps (env : Environment) (t : CloudType) :
    KeepsProvisioned (driverRun.provisioner.out.clouds env t) := by
  intro klass count vm v hv
  have hv' : (.ok { vm with id := some "i-1" } : Except Exn VirtualMachine) = .ok v := hv
  rw [← Except.ok.inj hv']

/-- The run of the driver gives it back. -/
theorem driverRun_released :
    (invoke ⟨emptyDir, []⟩ (.run driverRun)).dir.file driverRun.provisioner.clusterName = none
      ∧ ∀ y ∈ createdInstances (invoke ⟨emptyDir, []⟩ (.run driverRun)).log,
        ∃ vm, .destroyInstance vm ∈ (invoke ⟨emptyDir, []⟩ (.run driverRun)).log
          ∧ (vm.env, vm.id) = y := by
  have hproper : ∀ topo, driverRun.provisioner.loadTopo = .ok topo →
      Proper driverRun.provisioner.provisioning topo := by
    intro topo htopo
    rw [← Except.ok.inj htopo]
    exact proper_oneDriver
  have hclouds : ∀ env ∈ driverRun.provisioner.envs, ∃ t,
      CloudType.fromString env.env.cloud = .ok t ∧ perMachine t = true := by
    intro env henv
    rw [List.mem_singleton.mp henv]
    exact ⟨.aws, rfl, rfl⟩
  exact run_released driverRun emptyDir rfl rfl hproper hclouds driverRun_keeps
    (List.pairwise_singleton _ _) driverRun_status

end Driver

end Main

end Xbench
